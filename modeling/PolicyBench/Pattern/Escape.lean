/-
  PolicyBench — characters of a pattern that a backslash introduces.

  Behind a backslash a punctuation mark means itself, a letter names a
  character, a class of characters or a place between two characters, and other
  things mean nothing.  Some of it depends on the mode: where characters are
  bytes, nothing may match half a character.

  * `Mode` says how a pattern is read, `Mode.skip` passes over blanks where they
    mean nothing;
  * `Escape` is what can be introduced, `readEscape?` reads it;
  * `length_lt_of_readEscape?`: reading takes something off the text.
-/
import PolicyBench.Text.Blank

namespace PolicyBench.Pattern

open Text (isBlank)

/-! ## Modes -/

/-- How a pattern is read. -/
structure Mode where
  /-- whether the characters are those of Unicode, and not bytes -/
  unicode : Bool := true
  /-- whether blanks and comments between the parts mean nothing -/
  spaced : Bool := false
  deriving DecidableEq, Repr

/-- The text behind blanks and comments; a comment runs to the end of its line. -/
def skipBlanks : List Char → List Char
  | [] => []
  | c :: cs =>
    if c = '#' then skipBlanks (cs.dropWhile (· ≠ '\n'))
    else if isBlank c then skipBlanks cs
    else c :: cs
termination_by cs => cs.length
decreasing_by
  · exact Nat.lt_succ_of_le (List.dropWhile_sublist _).length_le
  · exact Nat.lt_succ_self _

theorem length_skipBlanks_le (cs : List Char) : (skipBlanks cs).length ≤ cs.length := by
  fun_induction skipBlanks cs with
  | case1 => simp
  | case2 cs ih =>
    exact Nat.le_trans ih (Nat.le_succ_of_le (List.dropWhile_sublist _).length_le)
  | case3 c cs _ _ ih => exact Nat.le_succ_of_le ih
  | case4 => simp

/-- The text behind what means nothing. -/
def Mode.skip (mode : Mode) (cs : List Char) : List Char :=
  if mode.spaced then skipBlanks cs else cs

theorem Mode.length_skip_le (mode : Mode) (cs : List Char) :
    (mode.skip cs).length ≤ cs.length := by
  unfold Mode.skip
  split
  · exact length_skipBlanks_le cs
  · exact Nat.le_refl _

theorem Mode.length_lt_of_skip_eq_cons {mode : Mode} {cs rest : List Char} {c : Char}
    (h : mode.skip cs = c :: rest) : rest.length < cs.length := by
  have := mode.length_skip_le cs
  rwa [h] at this

/-! ## Characters by number -/

/-- The value of a hexadecimal digit. -/
def hexDigit? (c : Char) : Option Nat :=
  if c.isDigit then some (c.toNat - '0'.toNat)
  else if 'a' ≤ c ∧ c ≤ 'f' then some (c.toNat - 'a'.toNat + 10)
  else if 'A' ≤ c ∧ c ≤ 'F' then some (c.toNat - 'A'.toNat + 10)
  else none

/-- The value of the next `n` hexadecimal digits, where `code` is that of those
    before. -/
def readHex? (mode : Mode) : Nat → Nat → List Char → Option (Nat × List Char)
  | 0, code, cs => some (code, cs)
  | n + 1, code, cs =>
    match mode.skip cs with
    | [] => none
    | c :: cs => (hexDigit? c).bind fun d => readHex? mode n (code * 16 + d) cs

theorem length_le_of_readHex? {mode : Mode} {n code value : Nat} {cs rest : List Char}
    (h : readHex? mode n code cs = some (value, rest)) : rest.length ≤ cs.length := by
  induction n generalizing code cs with
  | zero => simp_all [readHex?]
  | succ n ih =>
    rw [readHex?] at h
    split at h
    · cases h
    · next c cs' hc =>
      obtain ⟨d, -, hd⟩ := Option.bind_eq_some_iff.1 h
      exact Nat.le_trans (ih hd) (Nat.le_of_lt (Mode.length_lt_of_skip_eq_cons hc))

/-- How many digits the number has that a letter announces. -/
def hexLength? (c : Char) : Option Nat :=
  if c = 'x' then some 2 else if c = 'u' then some 4 else if c = 'U' then some 8 else none

/-- The character with a number of so many digits.  Two digits can be those of a
    byte, and outside ASCII a byte is no character. -/
def numberedChar? (mode : Mode) (digits code : Nat) : Option Char :=
  if digits = 2 ∧ 0x80 ≤ code ∧ !mode.unicode then none
  else if code.isValidChar then some (Char.ofNat code)
  else none

/-! ## What a backslash introduces -/

/-- What a backslash can introduce. -/
inductive Escape where
  /-- one character -/
  | literal (c : Char)
  /-- a class of characters -/
  | anyOf
  /-- a place between two characters -/
  | place
  deriving DecidableEq, Repr

/-- The character that a letter names. -/
def namedChar? (c : Char) : Option Char :=
  match c with
  | 'a' => some '\x07'
  | 'f' => some '\x0c'
  | 't' => some '\t'
  | 'n' => some '\n'
  | 'r' => some '\r'
  | 'v' => some '\x0b'
  | _ => none

/-- The letters of the great categories of Unicode. -/
def isCategory (c : Char) : Bool := c.toLower ∈ ['c', 'l', 'm', 'n', 'p', 's', 'z']

/-- What a single character behind a backslash means. -/
def simpleEscape? (mode : Mode) (c : Char) : Option Escape :=
  if c ∈ ['d', 's', 'w'] then some .anyOf
  else if c ∈ ['D', 'S', 'W'] then if mode.unicode then some .anyOf else none
  else if c ∈ ['A', 'z'] then some .place
  else if c ∈ ['b', 'B', '<', '>'] then if mode.unicode then none else some .place
  else if c.toNat < 0x80 ∧ !c.isAlphanum then some (.literal c)
  else (namedChar? c).map .literal

/-- Reads what a backslash introduces: a character by its number in hexadecimal
    digits, a category of characters, or what a single character means. -/
def readEscape? (mode : Mode) : List Char → Option (Escape × List Char)
  | [] => none
  | c :: cs =>
    match hexLength? c with
    | some n => do
      let (code, rest) ← readHex? mode n 0 cs
      return (.literal (← numberedChar? mode n code), rest)
    | none =>
      if c = 'p' ∨ c = 'P' then
        match mode.skip cs with
        | [] => none
        | c :: cs => if isCategory c && mode.unicode then some (.anyOf, cs) else none
      else (simpleEscape? mode c).map (·, cs)

theorem length_lt_of_readEscape? {mode : Mode} {cs rest : List Char} {e : Escape}
    (h : readEscape? mode cs = some (e, rest)) : rest.length < cs.length := by
  cases cs with
  | nil => simp [readEscape?] at h
  | cons c cs =>
    rw [readEscape?] at h
    split at h
    · obtain ⟨⟨code, r⟩, hr, h⟩ := Option.bind_eq_some_iff.1 h
      obtain ⟨x, -, hx⟩ := Option.bind_eq_some_iff.1 h
      cases hx
      exact Nat.lt_succ_of_le (length_le_of_readHex? hr)
    · split at h
      · split at h
        · cases h
        · next c' cs' hc =>
          split at h
          · cases h
            exact Nat.lt_succ_of_lt (Mode.length_lt_of_skip_eq_cons hc)
          · cases h
      · obtain ⟨e', -, he⟩ := Option.map_eq_some_iff.1 h
        cases he
        simp

end PolicyBench.Pattern
