/-
  PolicyBench — parts of a text by position.

  Positions in a text are counted in the bytes of its encoding.  A position in
  the middle of a character, or behind the end, is none where a text can be cut.

  * `byteLength` is the number of bytes of a text;
  * `splitAt?` cuts a text in two; `splitAt?_eq_some_iff` says that it succeeds
    exactly where a character begins or the text ends;
  * `slice?` is what lies between two positions.
-/

namespace PolicyBench.Text

/-- The number of bytes that encode a text. -/
def byteLength : List Char → Nat
  | [] => 0
  | c :: cs => c.utf8Size + byteLength cs

/-- What lies before and behind a position; `none` if no character begins there. -/
def splitAt? : Nat → List Char → Option (List Char × List Char)
  | 0, cs => some ([], cs)
  | _ + 1, [] => none
  | n + 1, c :: cs =>
    if c.utf8Size ≤ n + 1 then
      (splitAt? (n + 1 - c.utf8Size) cs).map fun p => (c :: p.1, p.2)
    else none

/-- A text can be cut exactly behind some of its characters. -/
theorem splitAt?_eq_some_iff {n : Nat} {cs s t : List Char} :
    splitAt? n cs = some (s, t) ↔ cs = s ++ t ∧ byteLength s = n := by
  induction cs generalizing n s with
  | nil =>
    cases n <;> cases s <;> simp [splitAt?, byteLength, eq_comm]
  | cons c cs ih =>
    have hc := c.utf8Size_pos
    cases n with
    | zero =>
      cases s with
      | nil => simp [splitAt?, byteLength, eq_comm]
      | cons d s =>
        have := d.utf8Size_pos
        simp [splitAt?, byteLength]
        omega
    | succ n =>
      rw [splitAt?]
      cases s with
      | nil => split <;> simp [byteLength]
      | cons d s =>
        by_cases h : c.utf8Size ≤ n + 1
        · simp only [h, if_true, Option.map_eq_some_iff, Prod.mk.injEq, List.cons.injEq,
            Prod.exists, List.cons_append, byteLength]
          constructor
          · rintro ⟨a, b, hab, ⟨rfl, rfl⟩, rfl⟩
            obtain ⟨rfl, hn⟩ := ih.1 hab
            exact ⟨⟨rfl, rfl⟩, by omega⟩
          · rintro ⟨⟨rfl, rfl⟩, hn⟩
            exact ⟨s, t, ih.2 ⟨rfl, by omega⟩, ⟨rfl, rfl⟩, rfl⟩
        · simp only [h, if_false, List.cons_append, List.cons.injEq, byteLength]
          constructor
          · intro hf; cases hf
          · rintro ⟨⟨rfl, -⟩, hn⟩
            omega

/-- What lies between two positions; `none` if a character does not begin at one
    of them. -/
def slice? (first last : Nat) (cs : List Char) : Option (List Char) := do
  let (_, rest) ← splitAt? first cs
  let (middle, _) ← splitAt? (last - first) rest
  return middle

end PolicyBench.Text
