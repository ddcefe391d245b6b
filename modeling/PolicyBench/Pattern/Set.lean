/-
  PolicyBench — sets of characters in a pattern.

  Between square brackets a pattern lists characters, ranges of them, classes
  that have a name, and further sets.  A caret in front takes the other
  characters; two sets can be joined by an operator, a sign that stands twice.

  * `rowDepth`: several parts in a row are one deeper than the deepest of them, one
    alone is not nested any deeper;
  * `readItem?` reads a character, a class or a range;
  * `OpenSet` is a set that is being read, `startSet?` reads how one begins;
  * `readSet?` reads a set to its end, with the sets in it, and gives its depth;
  * `length_lt_of_readSet?`: reading takes something off the text.
-/
import PolicyBench.Pattern.Escape

namespace PolicyBench.Pattern

open Text (isBlank)

/-- The depth of parts in a row. -/
def rowDepth : List Nat → Nat
  | [] => 0
  | [depth] => depth
  | depths => depths.foldr max 0 + 1

/-! ## Items -/

/-- What stands alone or at one end of a range. -/
def readMember? (mode : Mode) : List Char → Option (Escape × List Char)
  | [] => none
  | c :: cs => if c = '\\' then readEscape? mode cs else some (.literal c, cs)

theorem length_lt_of_readMember? {mode : Mode} {cs rest : List Char} {e : Escape}
    (h : readMember? mode cs = some (e, rest)) : rest.length < cs.length := by
  cases cs with
  | nil => simp [readMember?] at h
  | cons c cs =>
    rw [readMember?] at h
    split at h
    · exact Nat.lt_succ_of_lt (length_lt_of_readEscape? h)
    · cases h
      exact Nat.lt_succ_self _

/-- Whether something can be in a set: a place is no character, and a set of
    bytes holds none outside ASCII. -/
def Escape.isMember (mode : Mode) : Escape → Bool
  | literal c => mode.unicode || decide (c.toNat < 0x80)
  | anyOf => true
  | place => false

/-- The character behind a dash, looked for behind blanks and one comment sign. -/
def Mode.peek (mode : Mode) (cs : List Char) : Option Char :=
  if mode.spaced then
    match cs.dropWhile isBlank with
    | '#' :: rest => (rest.dropWhile isBlank).head?
    | rest => rest.head?
  else cs.head?

/-- What follows a range, of which the first end and the dash are read. -/
def readRangeEnd? (mode : Mode) (first : Escape) (cs : List Char) : Option (List Char) :=
  match first, readMember? mode (mode.skip cs) with
  | .literal a, some (.literal b, rest) =>
    if a ≤ b && (Escape.literal b).isMember mode then some rest else none
  | _, _ => none

/-- What follows an item.  A dash makes a range, unless the set ends behind it or
    a second dash makes it an operator. -/
def readItem? (mode : Mode) (cs : List Char) : Option (List Char) :=
  match readMember? mode cs with
  | none => none
  | some (first, rest) =>
    if first.isMember mode then
      match mode.skip rest with
      | [] => none
      | c :: behind =>
        if c = '-' ∧ mode.peek behind ≠ some ']' ∧ mode.peek behind ≠ some '-' then
          readRangeEnd? mode first behind
        else some (c :: behind)
    else none

theorem length_lt_of_readRangeEnd? {mode : Mode} {first : Escape} {cs rest : List Char}
    (h : readRangeEnd? mode first cs = some rest) : rest.length < cs.length := by
  unfold readRangeEnd? at h
  split at h
  · next hm =>
    split at h
    · cases h
      exact Nat.lt_of_lt_of_le (length_lt_of_readMember? hm) (mode.length_skip_le cs)
    · cases h
  · cases h

theorem length_lt_of_readItem? {mode : Mode} {cs rest : List Char}
    (h : readItem? mode cs = some rest) : rest.length < cs.length := by
  unfold readItem? at h
  split at h
  · cases h
  · next first behind hm =>
    have hl := length_lt_of_readMember? hm
    split at h
    · split at h
      · cases h
      · next c rest' hc =>
        have hs := Mode.length_lt_of_skip_eq_cons hc
        split at h
        · exact Nat.lt_trans (length_lt_of_readRangeEnd? h) (Nat.lt_trans hs hl)
        · cases h
          exact Nat.lt_of_le_of_lt hs hl
    · cases h

/-! ## Classes with a name -/

/-- The names of classes. -/
def classNames : List String :=
  ["alnum", "alpha", "ascii", "blank", "cntrl", "digit", "graph", "lower", "print", "punct",
    "space", "upper", "word", "xdigit"]

/-- Reads a class with a name behind its opening bracket: whether it is the class
    of the other characters, and what follows. -/
def readNamedClass? : List Char → Option (Bool × List Char)
  | ':' :: cs =>
    let negated := cs.head? == some '^'
    let body := if negated then cs.tail else cs
    match body.dropWhile (· ≠ ':') with
    | _ :: ']' :: rest =>
      if String.ofList (body.takeWhile (· ≠ ':')) ∈ classNames then some (negated, rest) else none
    | _ => none
  | _ => none

theorem length_lt_of_readNamedClass? {cs rest : List Char} {negated : Bool}
    (h : readNamedClass? cs = some (negated, rest)) : rest.length < cs.length := by
  unfold readNamedClass? at h
  split at h
  · next cs =>
    dsimp only at h
    generalize hb : (if cs.head? == some '^' then cs.tail else cs) = body at h
    have hbody : body.length ≤ cs.length := by
      rw [← hb]
      split
      · simp
      · exact Nat.le_refl _
    split at h
    · next hd =>
      have hl := (List.dropWhile_sublist (l := body) (· ≠ ':')).length_le
      rw [hd] at hl
      split at h
      · cases h
        simp only [List.length_cons] at hl ⊢
        omega
      · cases h
    · cases h
  · cases h

/-! ## Sets -/

/-- A set that is being read. -/
structure OpenSet where
  /-- the depth of what stands before the last operator -/
  before : Option Nat := none
  /-- the depths of the items behind it, the last one first -/
  items : List Nat := []
  deriving DecidableEq, Repr

/-- The depth of what has been read. -/
def OpenSet.depth (s : OpenSet) : Nat :=
  match s.before with
  | none => rowDepth s.items
  | some depth => max depth (rowDepth s.items) + 1

/-- With one more item. -/
def OpenSet.add (depth : Nat) (s : OpenSet) : OpenSet := { s with items := depth :: s.items }

/-- Behind an operator. -/
def OpenSet.operate (s : OpenSet) : OpenSet := ⟨some s.depth, []⟩

/-- The number of dashes at the front, and what follows them. -/
def readDashes (mode : Mode) (cs : List Char) : Nat × List Char :=
  match h : mode.skip cs with
  | [] => (0, [])
  | c :: rest =>
    have := Mode.length_lt_of_skip_eq_cons h
    if c = '-' then ((readDashes mode rest).1 + 1, (readDashes mode rest).2)
    else (0, c :: rest)
termination_by cs.length

theorem length_readDashes_le (mode : Mode) (cs : List Char) :
    (readDashes mode cs).2.length ≤ cs.length := by
  fun_induction readDashes mode cs with
  | case1 => simp
  | case2 cs rest _ hl ih => exact Nat.le_of_lt (Nat.lt_of_le_of_lt ih hl)
  | case3 cs c rest _ hl => exact hl

/-- Reads how a set begins behind its opening bracket: a caret, dashes that mean
    themselves, and a closing bracket that does so if it comes first. -/
def startSet? (mode : Mode) (cs : List Char) : Option (OpenSet × List Char) :=
  let body := mode.skip cs
  let negated := body.head? == some '^'
  if negated && !mode.unicode then none
  else
    match readDashes mode (if negated then body.tail else body) with
    | (0, ']' :: rest) => some ({ items := [0] }, rest)
    | (n, rest) => some ({ items := List.replicate n 0 }, rest)

theorem length_le_of_startSet? {mode : Mode} {cs rest : List Char} {s : OpenSet}
    (h : startSet? mode cs = some (s, rest)) : rest.length ≤ cs.length := by
  unfold startSet? at h
  have hs := mode.length_skip_le cs
  dsimp only at h
  generalize hb : (if (mode.skip cs).head? == some '^' then (mode.skip cs).tail
    else mode.skip cs) = body at h
  have hbody : body.length ≤ (mode.skip cs).length := by
    rw [← hb]
    split
    · simp
    · exact Nat.le_refl _
  have hd := length_readDashes_le mode body
  split at h
  · cases h
  · split at h
    · next hr =>
      cases h
      rw [hr, List.length_cons] at hd
      omega
    · next hr =>
      cases h
      rw [hr] at hd
      exact Nat.le_trans hd (Nat.le_trans hbody hs)

/-- The signs that are operators where they stand twice. -/
def isOperator (c : Char) : Bool := c == '&' || c == '-' || c == '~'

/-- The depth of a set, and what follows it.  `inner` is the set being read,
    `outer` are those around it, the nearest first. -/
def readSet? (mode : Mode) (inner : OpenSet) (outer : List OpenSet) (cs : List Char) :
    Option (Nat × List Char) :=
  match h : mode.skip cs with
  | [] => none
  | c :: rest =>
    have := Mode.length_lt_of_skip_eq_cons h
    if c = '[' then
      match hc : readNamedClass? rest with
      | some (negated, behind) =>
        have := length_lt_of_readNamedClass? hc
        if negated && !mode.unicode then none else readSet? mode (inner.add 0) outer behind
      | none =>
        match hs : startSet? mode rest with
        | none => none
        | some (new, behind) =>
          have := length_le_of_startSet? hs
          readSet? mode new (inner :: outer) behind
    else if c = ']' then
      match outer with
      | [] => some (inner.depth + 1, rest)
      | next :: outer => readSet? mode (next.add (inner.depth + 1)) outer rest
    else if isOperator c && rest.head? == some c then
      have : rest.tail.length ≤ rest.length := by simp
      readSet? mode inner.operate outer rest.tail
    else
      match hi : readItem? mode (c :: rest) with
      | none => none
      | some behind =>
        have : behind.length ≤ rest.length := Nat.le_of_lt_succ (length_lt_of_readItem? hi)
        readSet? mode (inner.add 0) outer behind
termination_by cs.length

theorem length_lt_of_readSet? {mode : Mode} {inner : OpenSet} {outer : List OpenSet}
    {cs rest : List Char} {depth : Nat} (h : readSet? mode inner outer cs = some (depth, rest)) :
    rest.length < cs.length := by
  fun_induction readSet? mode inner outer cs with
  | case1 => cases h
  | case2 => cases h
  | case3 _ _ _ _ _ _ _ _ _ _ _ ih => have := ih h; omega
  | case4 => cases h
  | case5 _ _ _ _ _ _ _ _ _ _ _ ih => have := ih h; omega
  | case6 _ _ _ _ hl => cases h; exact hl
  | case7 _ _ _ _ hl _ _ _ ih => have := ih h; omega
  | case8 _ _ _ _ _ _ hl _ _ _ ht ih => have := ih h; omega
  | case9 => cases h
  | case10 _ _ _ _ _ _ hl _ _ _ _ _ hb ih => have := ih h; omega

end PolicyBench.Pattern
