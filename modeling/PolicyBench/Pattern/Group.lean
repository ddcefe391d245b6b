/-
  PolicyBench — how a group of a pattern begins.

  Behind an opening bracket a group may be given a name, or a mode of its own;
  a bracket that holds nothing but a mode changes it for the rest of the group
  around it.

  * `GroupStart` is what an opening bracket can begin, `readGroupStart?` reads it;
  * `Mode.change` applies the letters that change a mode;
  * `length_le_of_readGroupStart?`: reading adds nothing to the text.
-/
import PolicyBench.Pattern.Escape
import PolicyBench.Text.Alphanumeric

namespace PolicyBench.Pattern

open Text (isAlphabetic isAlphanumeric)

/-- What an opening bracket can begin. -/
inductive GroupStart where
  /-- a group, and the mode in it -/
  | plain (mode : Mode)
  /-- a group with a name -/
  | named (name : List Char)
  /-- a mode for what follows -/
  | setting (mode : Mode)
  deriving DecidableEq, Repr

/-! ## Names -/

/-- Whether a group can have the name. -/
def isGroupName : List Char → Bool
  | [] => false
  | c :: cs =>
    (c == '_' || isAlphabetic c) && cs.all fun c => c ∈ ['_', '.', '[', ']'] || isAlphanumeric c

/-! ## Modes -/

/-- The letters that change a mode; a minus sign stands before those that end
    something. -/
def modeLetters : List Char := ['i', 'm', 's', 'U', 'u', 'R', 'x', '-']

/-- Whether the letters change a mode: none stands twice, and one follows the
    minus sign. -/
def isModeChange (letters : List Char) : Bool :=
  letters.all (· ∈ modeLetters) && decide letters.Nodup && letters.getLast? != some '-'

/-- What the letters say about one of them, if anything. -/
def switch? (letters : List Char) (letter : Char) : Option Bool :=
  if letter ∈ letters.takeWhile (· ≠ '-') then some true
  else if letter ∈ letters then some false
  else none

/-- The mode that the letters give. -/
def Mode.change (mode : Mode) (letters : List Char) : Mode where
  unicode := (switch? letters 'u').getD mode.unicode
  spaced := (switch? letters 'x').getD mode.spaced

/-- Letters that say nothing about a mode leave it. -/
theorem Mode.change_nil (mode : Mode) : mode.change [] = mode := rfl

/-! ## Reading -/

/-- Reads the name of a group up to the angle bracket behind it. -/
def readGroupName? (cs : List Char) : Option (GroupStart × List Char) :=
  let name := cs.takeWhile (· ≠ '>')
  match cs.dropWhile (· ≠ '>') with
  | [] => none
  | _ :: rest => if isGroupName name then some (.named name, rest) else none

/-- Reads the letters of a mode.  A colon opens a group with that mode, a closing
    bracket makes it that of the group around. -/
def readModeChange? (mode : Mode) (cs : List Char) : Option (GroupStart × List Char) :=
  let isLetter (c : Char) : Bool := c != ':' && c != ')'
  let letters := cs.takeWhile isLetter
  match cs.dropWhile isLetter with
  | [] => none
  | c :: rest =>
    if isModeChange letters then
      if c = ':' then some (.plain (mode.change letters), rest)
      else if letters = [] then none
      else some (.setting (mode.change letters), rest)
    else none

/-- Reads what an opening bracket begins. -/
def readGroupStart? (mode : Mode) (cs : List Char) : Option (GroupStart × List Char) :=
  match mode.skip cs with
  | '?' :: 'P' :: '<' :: rest => readGroupName? rest
  | '?' :: '<' :: rest => readGroupName? rest
  | '?' :: rest => readModeChange? mode rest
  | rest => some (.plain mode, rest)

theorem length_lt_of_readGroupName? {cs rest : List Char} {s : GroupStart}
    (h : readGroupName? cs = some (s, rest)) : rest.length < cs.length := by
  unfold readGroupName? at h
  dsimp only at h
  have hl := (List.dropWhile_sublist (l := cs) (· ≠ '>')).length_le
  split at h
  · cases h
  · next hd =>
    rw [hd] at hl
    split at h
    · cases h; exact hl
    · cases h

theorem length_lt_of_readModeChange? {mode : Mode} {cs rest : List Char} {s : GroupStart}
    (h : readModeChange? mode cs = some (s, rest)) : rest.length < cs.length := by
  unfold readModeChange? at h
  dsimp only at h
  have hl := (List.dropWhile_sublist (l := cs) (fun c => c != ':' && c != ')')).length_le
  split at h
  · cases h
  · next hd =>
    rw [hd] at hl
    split at h
    · split at h
      · cases h; exact hl
      · split at h
        · cases h
        · cases h; exact hl
    · cases h

theorem length_le_of_readGroupStart? {mode : Mode} {cs rest : List Char} {s : GroupStart}
    (h : readGroupStart? mode cs = some (s, rest)) : rest.length ≤ cs.length := by
  unfold readGroupStart? at h
  have hs := mode.length_skip_le cs
  split at h
  · next hc =>
    have := length_lt_of_readGroupName? h
    simp only [hc, List.length_cons] at hs
    omega
  · next hc =>
    have := length_lt_of_readGroupName? h
    simp only [hc, List.length_cons] at hs
    omega
  · next hc =>
    have := length_lt_of_readModeChange? h
    simp only [hc, List.length_cons] at hs
    omega
  · cases h
    exact hs

end PolicyBench.Pattern
