/-
  PolicyBench — patterns for texts.

  A pattern is a text that says which texts it fits: characters and sets of
  them, in a row, as alternatives, in groups, and repeated.  Only patterns that
  can be carried out make sense, and only those that are not nested too deeply.

  * `OpenGroup` is a group that is being read, `OpenGroup.depth` its depth;
  * `patternDepth?` reads a pattern and gives its depth;
  * `isPattern` says whether a text is a pattern.
-/
import PolicyBench.Pattern.Group
import PolicyBench.Pattern.Set

namespace PolicyBench.Pattern

/-! ## Groups -/

/-- One piece of a row. -/
inductive Piece where
  /-- what fits a text, with its depth -/
  | part (depth : Nat)
  /-- a change of the mode, which cannot be repeated -/
  | setting
  deriving DecidableEq, Repr

/-- The depth of a piece. -/
def Piece.depth : Piece → Nat
  | part depth => depth
  | setting => 0

/-- A group that is being read, or the whole pattern. -/
structure OpenGroup where
  /-- the mode that holds behind the group -/
  behind : Mode := {}
  /-- the depths of the alternatives before the last one -/
  alternatives : List Nat := []
  /-- the pieces of the last alternative, the last one first -/
  pieces : List Piece := []
  deriving DecidableEq, Repr

namespace OpenGroup

/-- The depth of the alternative that is being read. -/
def lastDepth (g : OpenGroup) : Nat := rowDepth (g.pieces.map Piece.depth)

/-- The depth of what has been read. -/
def depth (g : OpenGroup) : Nat := rowDepth (g.lastDepth :: g.alternatives)

/-- With one more piece. -/
def add (piece : Piece) (g : OpenGroup) : OpenGroup := { g with pieces := piece :: g.pieces }

/-- With one more alternative. -/
def alternate (g : OpenGroup) : OpenGroup :=
  { g with alternatives := g.lastDepth :: g.alternatives, pieces := [] }

/-- With the last piece repeated; `none` if there is none, or none to repeat. -/
def repeat? (g : OpenGroup) : Option OpenGroup :=
  match g.pieces with
  | .part depth :: pieces => some { g with pieces := .part (depth + 1) :: pieces }
  | _ => none

end OpenGroup

/-! ## Reading -/

/-- Reads what is neither a bracket nor a bar nor a sign for repetition.  A dot
    stands for any character, which may be none of a byte. -/
def readSingle? (mode : Mode) (c : Char) (cs : List Char) : Option (List Char) :=
  if c = '\\' then (readEscape? mode cs).map Prod.snd
  else if c = '\x7b' ∨ (c = '.' ∧ !mode.unicode) then none
  else some cs

theorem length_le_of_readSingle? {mode : Mode} {c : Char} {cs rest : List Char}
    (h : readSingle? mode c cs = some rest) : rest.length ≤ cs.length := by
  unfold readSingle? at h
  split at h
  · obtain ⟨⟨e, r⟩, hr, rfl⟩ := Option.map_eq_some_iff.1 h
    exact Nat.le_of_lt (length_lt_of_readEscape? hr)
  · split at h
    · cases h
    · cases h
      exact Nat.le_refl _

/-- What follows a sign for repetition: a question mark behind it belongs to it. -/
def afterRepetition : List Char → List Char
  | '?' :: cs => cs
  | cs => cs

theorem length_afterRepetition_le (cs : List Char) : (afterRepetition cs).length ≤ cs.length := by
  unfold afterRepetition
  split <;> simp

/-- The depth of a pattern of which `cs` is still to be read.  `names` are those of
    the groups so far, `inner` is the group being read, `outer` are those around
    it, the nearest first. -/
def depth? (mode : Mode) (names : List (List Char)) (inner : OpenGroup) (outer : List OpenGroup)
    (cs : List Char) : Option Nat :=
  match h : mode.skip cs with
  | [] => if outer = [] then some inner.depth else none
  | c :: rest =>
    have := Mode.length_lt_of_skip_eq_cons h
    if c = '(' then
      match hg : readGroupStart? mode rest with
      | none => none
      | some (start, behind) =>
        have := length_le_of_readGroupStart? hg
        match start with
        | .setting changed => depth? changed names (inner.add .setting) outer behind
        | .plain changed => depth? changed names { behind := mode } (inner :: outer) behind
        | .named name =>
          if name ∈ names then none
          else depth? mode (name :: names) { behind := mode } (inner :: outer) behind
    else if c = ')' then
      match outer with
      | [] => none
      | next :: outer => depth? inner.behind names (next.add (.part (inner.depth + 1))) outer rest
    else if c = '|' then depth? mode names inner.alternate outer rest
    else if c = '[' then
      match hs : (startSet? mode rest).bind fun s => readSet? mode s.1 [] s.2 with
      | none => none
      | some (depth, behind) =>
        have : behind.length ≤ rest.length := by
          obtain ⟨s, hs', hr⟩ := Option.bind_eq_some_iff.1 hs
          exact Nat.le_of_lt
            (Nat.lt_of_lt_of_le (length_lt_of_readSet? hr) (length_le_of_startSet? hs'))
        depth? mode names (inner.add (.part depth)) outer behind
    else if c = '?' ∨ c = '*' ∨ c = '+' then
      match inner.repeat? with
      | none => none
      | some inner =>
        have := length_afterRepetition_le rest
        depth? mode names inner outer (afterRepetition rest)
    else
      match hr : readSingle? mode c rest with
      | none => none
      | some behind =>
        have := length_le_of_readSingle? hr
        depth? mode names (inner.add (.part 0)) outer behind
termination_by cs.length

/-- The greatest depth of a pattern. -/
def depthLimit : Nat := 250

/-- Whether a text is a pattern. -/
def isPattern (cs : List Char) : Bool :=
  (depth? {} [] {} [] cs).any fun depth => decide (depth ≤ depthLimit)

end PolicyBench.Pattern
