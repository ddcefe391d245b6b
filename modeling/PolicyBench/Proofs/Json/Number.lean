/-
  PolicyBench — the digits of JSON numbers.

  A natural number is written with the digits that a JSON number may have, and digits
  whose value is below 2^64 are all taken.

  * `exists_isWhole_toDigits`: the decimal digits of a natural number;
  * `fit_eq`: digits whose value fits are taken to the last;
  * `IsNatural.spelledNumber`: a natural number of 64 bits has its digits for a text.
-/
import PolicyBench.Proofs.Json.Grammar

namespace PolicyBench.Json

-- `2 ^ n` is the core library's power, also where another one is in scope.
attribute [local instance (high)] instPowNat

/-! ## Digits -/

theorem digitsValue_append_singleton (ds : List Nat) (d : Nat) :
    digitsValue (ds ++ [d]) = digitsValue ds * 10 + d := by
  rw [digitsValue, List.foldl_append]
  rfl

theorem IsWhole.lt_ten {ds : List Nat} (h : IsWhole ds) : ∀ d ∈ ds, d < 10 := by
  cases h with
  | zero => decide
  | nonzero _ hds => exact hds.lt_ten

theorem IsWhole.isDigits {ds : List Nat} (h : IsWhole ds) : IsDigits ds := by
  refine ⟨?_, h.lt_ten⟩
  cases h <;> exact List.cons_ne_nil _ _

/-- Digits behind a part that is not zero. -/
theorem IsWhole.append {ds : List Nat} (h : IsWhole ds) (hpos : digitsValue ds ≠ 0)
    {es : List Nat} (hes : ∀ d ∈ es, d < 10) : IsWhole (ds ++ es) := by
  cases h with
  | zero => exact absurd rfl hpos
  | nonzero hd hds =>
    refine .nonzero hd ⟨List.cons_ne_nil _ _, fun d hd => ?_⟩
    exact (List.mem_append.1 (List.cons_append ▸ hd)).elim (hds.lt_ten d) (hes d)

/-- The digits of a natural number have no superfluous zero, and its value. -/
theorem exists_isWhole_toDigits (n : Nat) :
    ∃ ds, IsWhole ds ∧ digitChars ds = Nat.toDigits 10 n ∧ digitsValue ds = n := by
  induction n using Nat.strongRecOn with | _ n ih
  by_cases hsmall : n < 10
  · have hvalue : digitsValue [n] = n := Nat.zero_add n
    refine ⟨[n], ?_, (Nat.toDigits_of_lt_base hsmall).symm, hvalue⟩
    rcases Nat.eq_zero_or_pos n with rfl | hpos
    · exact .zero
    · exact .nonzero (Nat.pos_iff_ne_zero.1 hpos) ⟨List.cons_ne_nil _ _, by simpa using hsmall⟩
  · have hdigit : n % 10 < 10 := Nat.mod_lt _ (by decide)
    obtain ⟨ds, hwhole, hchars, hvalue⟩ := ih (n / 10) (by omega)
    refine ⟨ds ++ [n % 10], hwhole.append (by omega) (by simpa using hdigit), ?_, ?_⟩
    · rw [Nat.toDigits_of_base_le (by decide) (by omega), ← hchars, digitChars, List.map_append]
      rfl
    · rw [digitsValue_append_singleton, hvalue]
      omega

/-! ## Digits that fit -/

theorem le_foldl_digits (ds : List Nat) (n : Nat) : n ≤ ds.foldl (fun n d => n * 10 + d) n := by
  induction ds generalizing n with
  | nil => exact Nat.le_refl n
  | cons d ds ih => exact Nat.le_trans (by omega) (ih (n * 10 + d))

/-- All digits are taken if the number stays below 2^64. -/
theorem fit_eq {n : Nat} {ds : List Nat}
    (h : ds.foldl (fun n d => n * 10 + d) n < 2 ^ (64 : Nat)) :
    fit n ds = (ds.foldl (fun n d => n * 10 + d) n, []) := by
  induction ds generalizing n with
  | nil => rfl
  | cons d ds ih =>
    rw [fit, if_pos (Nat.lt_of_le_of_lt (le_foldl_digits ds _) h), ih h]
    rfl

theorem fit_zero {ds : List Nat} (h : digitsValue ds < 2 ^ (64 : Nat)) :
    fit 0 ds = (digitsValue ds, []) := fit_eq h

/-- **The digits of a natural number of 64 bits are a number with that value.** -/
theorem IsNatural.spelledNumber {k : UInt64} {cs : List Char} (h : IsNatural k cs) :
    ∃ n, SpelledNumber n cs ∧ n.value = .ok (.natural k) := by
  obtain ⟨⟩ := h
  obtain ⟨ds, hwhole, hchars, hvalue⟩ := exists_isWhole_toDigits k.toNat
  have hspelled := @SpelledNumber.parts false _ _ _ _ _ _ hwhole .absent .absent
  rw [if_neg nofun, List.nil_append, List.append_nil, List.append_nil, hchars] at hspelled
  refine ⟨_, hspelled, ?_⟩
  rw [NumberText.value]
  dsimp only
  rw [fit_zero (hvalue ▸ k.toNat_lt), if_pos ⟨rfl, rfl, rfl⟩, if_neg nofun, hvalue,
    UInt64.ofNat_toNat]

end PolicyBench.Json
