/-
  PolicyBench — finding things in a log.

  A simulator log is free text in which labelled numbers occur anywhere.  What
  is looked for is tried at every position, and the leftmost success counts.

  * `leftmost?` is that search; `leftmost?_eq_some_iff` says that it finds the
    success with the shortest text before it;
  * `digitsAfterColon?` reads a colon, blanks and a run of digits;
  * `labelled?` looks for one of several labels with such digits behind it;
  * `lineEntry?` looks for a whole word with such digits behind it;
  * `bodyAfter?` is the text from behind a header up to the first empty line.
-/
import PolicyBench.Text.Blank
import PolicyBench.Text.Digit
import PolicyBench.Text.Word

namespace PolicyBench.SimLog

open PolicyBench.Text

/-! ## The leftmost success -/

/-- The result of `f` at the leftmost position where it succeeds. -/
def leftmost? {α : Type} (f : List Char → Option α) : List Char → Option α
  | [] => f []
  | c :: cs =>
    match f (c :: cs) with
    | some a => some a
    | none => leftmost? f cs

theorem leftmost?_eq_some_iff {α : Type} {f : List Char → Option α} {cs : List Char} {a : α} :
    leftmost? f cs = some a ↔
      ∃ before rest, cs = before ++ rest ∧ f rest = some a ∧
        ∀ b r, cs = b ++ r → b.length < before.length → f r = none := by
  induction cs with
  | nil =>
    constructor
    · intro h; exact ⟨[], [], rfl, h, fun b r _ hb => by simp at hb⟩
    · rintro ⟨before, rest, h, hf, -⟩
      obtain ⟨-, rfl⟩ := List.append_eq_nil_iff.1 h.symm
      exact hf
  | cons c cs ih =>
    rw [leftmost?]
    split
    · next v hv =>
      constructor
      · rintro ⟨rfl⟩
        exact ⟨[], c :: cs, rfl, hv, fun b r _ hb => by simp at hb⟩
      · rintro ⟨before, rest, h, hf, hmin⟩
        cases before with
        | nil => rw [List.nil_append] at h; rw [← h, hv] at hf; exact hf
        | cons d before => rw [hmin [] (c :: cs) rfl (by simp)] at hv; cases hv
    · next hv =>
      rw [ih]
      constructor
      · rintro ⟨before, rest, rfl, hf, hmin⟩
        refine ⟨c :: before, rest, rfl, hf, fun b r hb hlt => ?_⟩
        cases b with
        | nil => rw [List.nil_append] at hb; rw [← hb, hv]
        | cons d b =>
          rw [List.cons_append, List.cons.injEq] at hb
          exact hmin b r hb.2 (by simpa using hlt)
      · rintro ⟨before, rest, h, hf, hmin⟩
        cases before with
        | nil => rw [List.nil_append] at h; rw [← h, hv] at hf; cases hf
        | cons d before =>
          rw [List.cons_append, List.cons.injEq] at h
          exact ⟨before, rest, h.2, hf, fun b r hb hlt =>
            hmin (c :: b) r (by rw [hb]; rfl) (by simpa using hlt)⟩

/-! ## Labelled numbers -/

/-- What follows `label`, if the text starts with it. -/
def after? : List Char → List Char → Option (List Char)
  | [], cs => some cs
  | _ :: _, [] => none
  | l :: label, c :: cs => if l = c then after? label cs else none

theorem after?_eq_some_iff {label cs rest : List Char} :
    after? label cs = some rest ↔ cs = label ++ rest := by
  fun_induction after? label cs <;> simp_all [eq_comm]

/-- The digits behind a colon and any blanks. -/
def digitsAfterColon? : List Char → Option (List Char)
  | ':' :: cs =>
    let digits := (cs.dropWhile isBlank).takeWhile isDigit
    if digits = [] then none else some digits
  | _ => none

/-- The digits behind the first of the labels that the text starts with. -/
def labelledHere? (labels : List (List Char)) (cs : List Char) : Option (List Char) :=
  labels.findSome? fun label => (after? label cs).bind digitsAfterColon?

/-- The digits of the leftmost labelled number. -/
def labelled? (labels : List (List Char)) (cs : List Char) : Option (List Char) :=
  leftmost? (labelledHere? labels) cs

/-! ## Lines of a block -/

/-- The leftmost whole word with a number behind it, and the number's digits. -/
def lineEntry? (cs : List Char) : Option (List Char × List Char) :=
  match cs with
  | [] => none
  | c :: rest =>
    if isWord c then
      match digitsAfterColon? (rest.dropWhile isWord) with
      | some digits => some (c :: rest.takeWhile isWord, digits)
      | none => lineEntry? (rest.dropWhile isWord)
    else lineEntry? rest
termination_by cs.length
decreasing_by
  · exact Nat.lt_succ_of_le (List.dropWhile_sublist _).length_le
  · exact Nat.lt_succ_self _

/-! ## Blocks -/

/-- What follows a line end. -/
def afterNewline? : List Char → Option (List Char)
  | '\n' :: cs => some cs
  | '\r' :: '\n' :: cs => some cs
  | _ => none

/-- Whether two line ends follow, so that an empty line starts here. -/
def atEmptyLine (cs : List Char) : Bool :=
  ((afterNewline? cs).bind afterNewline?).isSome

/-- The text before the first empty line. -/
def untilEmptyLine : List Char → List Char
  | [] => []
  | c :: cs => if atEmptyLine (c :: cs) then [] else c :: untilEmptyLine cs

/-- The text from behind the first occurrence of `header` up to an empty line. -/
def bodyAfter? (header : List Char) (cs : List Char) : Option (List Char) :=
  (leftmost? (after? header) cs).map untilEmptyLine

end PolicyBench.SimLog
