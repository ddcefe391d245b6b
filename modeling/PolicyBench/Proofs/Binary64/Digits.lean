/-
  PolicyBench — how many digits a number is shown with.

  Seventeen digits are enough for every number of the format: on the finest of the
  grids that are tried a neighbour of the number is so near that it reads back.

  * `Decimal.value`: the value of a decimal, in units;
  * `leadingExponent_le`, `lt_leadingExponent`: the decade of a magnitude;
  * `exists_gridCandidate`: a decimal of seventeen digits reads back;
  * `significand_shortest_lt`: the decimal that is chosen has at most that many;
  * `exponent_le_of_denotes`, `le_exponent_of_denotes`: the exponents of decimals that
    denote a number of the format.
-/
import Mathlib.Tactic.Ring
import PolicyBench.Proofs.Binary64.Near
import PolicyBench.Proofs.Binary64.Overflow

namespace PolicyBench

-- `2 ^ n` is the core library's power, also where another one is in scope.
attribute [local instance (high)] instPowNat

namespace Decimal

/-- The value of a decimal, in units. -/
def value (d : Decimal) : ℚ := d.significand * 10 ^ d.exponent * unitsOfOne

/-- Powers of ten with a sum for the exponent. -/
theorem ten_zpow {e f : Int} {n : Nat} (h : e = n + f) : (10 : ℚ) ^ e = 10 ^ n * 10 ^ f := by
  rw [h, zpow_add₀ (by norm_num), zpow_natCast]

theorem ten_pow_toNat (e : Int) : (10 : ℚ) ^ e.toNat = 10 ^ e * 10 ^ (-e).toNat := by
  have hsplit : (10 : ℚ) ^ (e.toNat : Int) = 10 ^ (-e).toNat * 10 ^ e := ten_zpow (by omega)
  rw [← zpow_natCast, hsplit, mul_comm]

theorem numerator_div_denominator (d : Decimal) :
    (d.numerator : ℚ) / d.denominator = d.value := by
  have hpos : (0 : ℚ) < 10 ^ (-d.exponent).toNat := by positivity
  rw [numerator, denominator, value]
  push_cast
  rw [ten_pow_toNat, div_eq_iff hpos.ne']
  ring

end Decimal

namespace Binary64

/-- A decimal denotes the magnitude that its value is rounded to. -/
theorem denotes_of_roundUnits {d : Decimal} {units : Nat} (h : Representable units)
    (hd : roundUnits d.numerator d.denominator = units) : d.Denotes units :=
  Decimal.denotes_of_round (h := h)
    (by rw [Decimal.round_eq_ofRatio, ofRatio_of_roundUnits false hd h])

theorem roundUnits_of_denotes {d : Decimal} {units : Nat} (h : d.Denotes units)
    (hr : Representable units) : roundUnits d.numerator d.denominator = units := by
  have hround := Decimal.round_of_denotes h false hr
  rw [Decimal.round_eq_ofRatio] at hround
  exact roundUnits_of_ofRatio hround

/-- A decimal that is not too large is rounded to a number. -/
theorem round_eq_finite (negative : Bool) {d : Decimal}
    (h : roundUnits d.numerator d.denominator < overflowUnits) :
    ∃ hr, d.round negative = finite negative (roundUnits d.numerator d.denominator) hr := by
  rw [Decimal.round_eq_ofRatio]
  exact ⟨⟨h, roundUnits_eq_mul _ _⟩, dif_pos h⟩

/-! ## The decade -/

theorem unitsOfOne_pos' : (0 : ℚ) < unitsOfOne := Nat.cast_pos.2 unitsOfOne_pos

theorem unitsOfOne_le_ten_pow : unitsOfOne ≤ 10 ^ (324 : Nat) := by decide +kernel

section
variable {units : Nat} (h : 0 < units)
include h

theorem leadingQuotient_ne_zero : units * 10 ^ (324 : Nat) / unitsOfOne ≠ 0 := by
  have hle : unitsOfOne ≤ units * 10 ^ (324 : Nat) :=
    Nat.le_trans unitsOfOne_le_ten_pow (Nat.le_mul_of_pos_left _ h)
  exact Nat.pos_iff_ne_zero.1 (Nat.div_pos hle unitsOfOne_pos)

/-- A power of ten that the magnitude reaches. -/
theorem leadingExponent_le : (10 : ℚ) ^ leadingExponent units * unitsOfOne ≤ units := by
  have hpos : 0 < Decimal.digitCount (units * 10 ^ (324 : Nat) / unitsOfOne) :=
    Nat.length_toDigits_pos
  have hle := Decimal.ten_pow_le_of_lt_digitCount (Nat.sub_one_lt (Nat.pos_iff_ne_zero.1 hpos))
    (leadingQuotient_ne_zero h)
  rw [Nat.le_div_iff_mul_le unitsOfOne_pos, ← @Nat.cast_le ℚ] at hle
  simp only [Nat.cast_mul, Nat.cast_pow, Nat.cast_ofNat] at hle
  have hsplit : (10 : ℚ) ^ ((Decimal.digitCount (units * 10 ^ (324 : Nat) / unitsOfOne) - 1 : Nat) :
      Int) = 10 ^ (324 : Nat) * 10 ^ leadingExponent units :=
    Decimal.ten_zpow (by rw [leadingExponent]; omega)
  rw [zpow_natCast] at hsplit
  refine le_of_mul_le_mul_left ?_ (pow_pos (by norm_num) _ : (0 : ℚ) < 10 ^ (324 : Nat))
  rw [hsplit, mul_comm (units : ℚ)] at hle
  rwa [← mul_assoc]

omit h in
/-- The next one is beyond it. -/
theorem lt_leadingExponent : (units : ℚ) < 10 ^ (leadingExponent units + 1) * unitsOfOne := by
  have hlt := Decimal.lt_ten_pow_digitCount (units * 10 ^ (324 : Nat) / unitsOfOne)
  rw [Nat.div_lt_iff_lt_mul unitsOfOne_pos, ← @Nat.cast_lt ℚ] at hlt
  simp only [Nat.cast_mul, Nat.cast_pow, Nat.cast_ofNat] at hlt
  have hsplit : (10 : ℚ) ^ ((Decimal.digitCount (units * 10 ^ (324 : Nat) / unitsOfOne) : Nat) :
      Int) = 10 ^ (324 : Nat) * 10 ^ (leadingExponent units + 1) :=
    Decimal.ten_zpow (by rw [leadingExponent]; omega)
  rw [zpow_natCast] at hsplit
  refine lt_of_mul_lt_mul_left ?_ (pow_nonneg (by norm_num) _ : (0 : ℚ) ≤ 10 ^ (324 : Nat))
  rw [hsplit, mul_comm (units : ℚ)] at hlt
  rwa [← mul_assoc]

end

/-! ## The grids -/

theorem gridStep_pos (e : Int) : (0 : ℚ) < 10 ^ e * unitsOfOne :=
  mul_pos (zpow_pos (by norm_num) _) unitsOfOne_pos'

theorem gridDenominator_pos (e : Int) : 0 < unitsOfOne * 10 ^ e.toNat :=
  Nat.mul_pos unitsOfOne_pos (Nat.pow_pos (by decide))

/-- The magnitude in steps of the grid of `10 ^ e`. -/
theorem gridQuotient (units : Nat) (e : Int) :
    ((units * 10 ^ (-e).toNat : Nat) : ℚ) / (unitsOfOne * 10 ^ e.toNat : Nat) =
      units / (10 ^ e * unitsOfOne) := by
  have hpos := unitsOfOne_pos'
  have hten : (10 : ℚ) ^ e ≠ 0 := zpow_ne_zero _ (by norm_num)
  have hpow : (10 : ℚ) ^ (-e).toNat ≠ 0 := pow_ne_zero _ (by norm_num)
  push_cast
  rw [Decimal.ten_pow_toNat e]
  field_simp

/-- On the grids that are tried the significands have seventeen digits at most. -/
theorem gridBelow_lt (units : Nat) {i : Nat} (hi : i ≤ 16) :
    units * 10 ^ (-(leadingExponent units - i)).toNat /
      (unitsOfOne * 10 ^ (leadingExponent units - i).toNat) < 10 ^ (17 : Nat) := by
  have hlt : (units : ℚ) < 10 ^ (leadingExponent units + 1) * unitsOfOne := lt_leadingExponent
  generalize leadingExponent units = lead at *
  have hstep := gridStep_pos (lead - i)
  have hden := gridDenominator_pos (lead - i)
  rw [Nat.div_lt_iff_lt_mul hden, ← @Nat.cast_lt ℚ, Nat.cast_mul (10 ^ (17 : Nat)),
    ← div_lt_iff₀ (Nat.cast_pos.2 hden), gridQuotient, div_lt_iff₀ hstep]
  have hsplit : (10 : ℚ) ^ (lead + 1) = 10 ^ (i + 1) * 10 ^ (lead - i) :=
    Decimal.ten_zpow (by omega)
  have hle : (10 : ℚ) ^ (i + 1) ≤ (10 ^ (17 : Nat) : Nat) := by
    rw [Nat.cast_pow, Nat.cast_ofNat]
    exact pow_le_pow_right₀ (by norm_num) (by omega)
  calc (units : ℚ) < 10 ^ (lead + 1) * unitsOfOne := hlt
    _ = 10 ^ (i + 1) * (10 ^ (lead - i) * unitsOfOne) := by rw [hsplit, mul_assoc]
    _ ≤ (10 ^ (17 : Nat) : Nat) * (10 ^ (lead - i) * unitsOfOne) :=
      mul_le_mul_of_nonneg_right hle hstep.le

/-- One of the two neighbours of a quotient is no further than a half. -/
theorem near_floor (num : Nat) {den : Nat} (hd : 0 < den) :
    |((num / den : Nat) : ℚ) - num / den| ≤ 1 / 2 ∨
      |((num / den + 1 : Nat) : ℚ) - num / den| ≤ 1 / 2 := by
  have hfloor : ((num / den : Nat) : ℚ) ≤ num / den := Nat.cast_div_le
  have hceil : (num : ℚ) / den < (num / den : Nat) + 1 := by
    rw [div_lt_iff₀ (Nat.cast_pos.2 hd)]
    exact_mod_cast Nat.lt_mul_of_div_lt (Nat.lt_succ_self _) hd
  rcases le_total ((num : ℚ) / den) ((num / den : Nat) + 1 / 2) with hhalf | hhalf
  · exact .inl (abs_le.2 ⟨by linarith, by linarith⟩)
  · exact .inr (abs_le.2 ⟨by push_cast; linarith, by push_cast; linarith⟩)

theorem denotes_trim {d : Decimal} {units : Nat} : d.trim.Denotes units ↔ d.Denotes units := by
  unfold Decimal.Denotes
  rw [Decimal.round_trim]

/-- If one of the neighbours reads back, one of them is found. -/
theorem gridCandidate?_of_denotes (tie : Tie) {units : Nat} {e : Int}
    (h : (Decimal.trim ⟨units * 10 ^ (-e).toNat / (unitsOfOne * 10 ^ e.toNat), e⟩).Denotes units ∨
      (Decimal.trim ⟨units * 10 ^ (-e).toNat / (unitsOfOne * 10 ^ e.toNat) + 1, e⟩).Denotes
        units) : ∃ d, gridCandidate? tie units e = some d := by
  unfold gridCandidate?
  dsimp only
  split
  · exact ⟨_, rfl⟩
  · next hupper =>
    refine ⟨_, if_pos ?_⟩
    by_contra hlower
    exact hupper ⟨h.resolve_left hlower, .inr hlower⟩

section
variable {units : Nat} (h : 0 < units) (hr : Representable units)
include h hr

/-- On the finest of them the nearer neighbour reads back. -/
theorem denotes_of_near {g : Nat}
    (hg : |(g : ℚ) - units / (10 ^ (leadingExponent units - 16) * unitsOfOne)| ≤ 1 / 2) :
    (Decimal.trim ⟨g, leadingExponent units - 16⟩).Denotes units := by
  rw [denotes_trim]
  refine denotes_of_roundUnits hr (roundUnits_of_near (Decimal.denominator_pos _) hr ?_)
  rw [Decimal.numerator_div_denominator, Decimal.value]
  dsimp only
  have hle := leadingExponent_le h
  have hsplit : (10 : ℚ) ^ leadingExponent units =
      10 ^ (16 : Nat) * 10 ^ (leadingExponent units - 16) := Decimal.ten_zpow (by omega)
  rw [hsplit] at hle
  have hstep := gridStep_pos (leadingExponent units - 16)
  rw [mul_assoc] at hle ⊢
  generalize (10 : ℚ) ^ (leadingExponent units - 16) * unitsOfOne = step at *
  have hdist : |g * step - units| ≤ 1 / 2 * step := by
    have hcancel : g * step - units = (g - units / step) * step := by
      field_simp
    rw [hcancel, abs_mul, abs_of_pos hstep]
    exact mul_le_mul_of_nonneg_right hg hstep.le
  have hunits : (0 : ℚ) < units := Nat.cast_pos.2 h
  refine lt_of_le_of_lt hdist ?_
  rw [lt_div_iff₀ (by positivity)]
  linarith

/-- **Seventeen digits are enough.** -/
theorem exists_gridCandidate (tie : Tie) :
    gridCandidate? tie units (leadingExponent units - 16) ≠ none := by
  have hnear := near_floor (units * 10 ^ (-(leadingExponent units - 16)).toNat)
    (gridDenominator_pos (leadingExponent units - 16))
  rw [gridQuotient] at hnear
  obtain ⟨d, hd⟩ := gridCandidate?_of_denotes tie
    (hnear.imp (denotes_of_near h hr) (denotes_of_near h hr))
  exact Option.ne_none_iff_exists'.2 ⟨d, hd⟩

end

/-! ## The decimal that is chosen -/

theorem Decimal.significand_trim_le (d : Decimal) : d.trim.significand ≤ d.significand := by
  fun_induction Decimal.trim d with
  | case1 d h ih => exact Nat.le_trans ih (Nat.div_le_self _ _)
  | case2 => exact Nat.le_refl _

/-- A significand that ends in a zero loses it. -/
theorem Decimal.significand_trim_lt {s : Nat} (hs : s ≤ 10 ^ (17 : Nat)) (e : Int) :
    (Decimal.trim ⟨s, e⟩).significand < 10 ^ (17 : Nat) := by
  rcases Nat.lt_or_eq_of_le hs with hlt | rfl
  · exact Nat.lt_of_le_of_lt (significand_trim_le _) hlt
  · have hzero : 10 ^ (17 : Nat) ≠ 0 ∧ 10 ^ (17 : Nat) % 10 = 0 := by decide
    have hlt : 10 ^ (17 : Nat) / 10 < 10 ^ (17 : Nat) := by decide
    rw [Decimal.trim, dif_pos hzero]
    exact Nat.lt_of_le_of_lt (significand_trim_le _) hlt

theorem significand_gridCandidate_lt {tie : Tie} {units i : Nat} (hi : i ≤ 16) {d : Decimal}
    (h : gridCandidate? tie units (leadingExponent units - i) = some d) :
    d.significand < 10 ^ (17 : Nat) := by
  have hbelow := gridBelow_lt units hi
  unfold gridCandidate? at h
  dsimp only at h
  split at h
  · cases h
    exact Decimal.significand_trim_lt hbelow _
  · split at h
    · cases h
      exact Decimal.significand_trim_lt hbelow.le _
    · cases h

/-- The decimal of a positive magnitude is found on one of the grids. -/
theorem exists_grid_shortest (tie : Tie) {units : Nat} (h : 0 < units)
    (hr : Representable units) :
    ∃ i ≤ 16, gridCandidate? tie units (leadingExponent units - (i : Nat)) =
      some (shortest tie units) := by
  unfold shortest
  rw [if_neg (Nat.pos_iff_ne_zero.1 h)]
  dsimp only
  generalize hfound : List.findSome? _ (List.range 17) = found
  cases found with
  | some d =>
    obtain ⟨i, hi, hcandidate⟩ := List.exists_of_findSome?_eq_some hfound
    exact ⟨i, Nat.le_of_lt_succ (List.mem_range.1 hi), hcandidate⟩
  | none =>
    exact absurd (List.findSome?_eq_none_iff.1 hfound 16 (List.mem_range.2 (by decide)))
      (exists_gridCandidate h hr tie)

/-- **A number of the format is shown with seventeen digits at most.** -/
theorem significand_shortest_lt (tie : Tie) {units : Nat} (hr : Representable units) :
    (shortest tie units).significand < 10 ^ (17 : Nat) := by
  rcases Nat.eq_zero_or_pos units with rfl | h
  · rw [shortest, if_pos rfl]
    exact Nat.pow_pos (by decide)
  · obtain ⟨i, hi, hcandidate⟩ := exists_grid_shortest tie h hr
    exact significand_gridCandidate_lt hi hcandidate

/-! ## Its exponent -/

theorem overflowBound_le_mul {k : Nat} (h : 309 ≤ k) : overflowBound ≤ 10 ^ k * unitsOfOne := by
  have hbound : overflowBound ≤ 10 ^ (309 : Nat) * unitsOfOne := by decide +kernel
  generalize 309 = n at h hbound
  exact Nat.le_trans hbound (Nat.mul_le_mul_right _ (Nat.pow_le_pow_right (by decide) h))

section
variable {d : Decimal} {units : Nat} (h : d.Denotes units)
include h

theorem Decimal.not_tooLarge_of_denotes (hr : Representable units) : ¬ d.TooLarge := by
  intro hlarge
  have hinfinite : d.round false = .infinite false :=
    Decimal.round_eq_infinite_iff.2 ⟨rfl, hlarge⟩
  rw [Decimal.round_of_denotes h false hr] at hinfinite
  cases hinfinite

theorem Decimal.significand_ne_zero_of_denotes (hpos : 0 < units) : d.significand ≠ 0 := by
  intro hzero
  rw [Decimal.Denotes, Decimal.round, if_pos (.inl hzero)] at h
  exact Nat.ne_of_lt hpos h

/-- No power of ten beyond 10^308. -/
theorem exponent_le_of_denotes (hr : Representable units) (hpos : 0 < units) :
    d.exponent ≤ 308 := by
  have hs := Nat.pos_of_ne_zero (Decimal.significand_ne_zero_of_denotes h hpos)
  refine Int.not_lt.1 fun hlt => Decimal.not_tooLarge_of_denotes h hr ?_
  have hdenominator : (-d.exponent).toNat = 0 := by omega
  rw [Decimal.TooLarge, Decimal.denominator, Decimal.numerator, hdenominator, Nat.pow_zero,
    Nat.mul_one]
  exact Nat.le_trans (overflowBound_le_mul (by omega))
    (Nat.mul_le_mul_right _ (Nat.le_mul_of_pos_left _ hs))

/-- No power of ten far below the smallest number. -/
theorem le_exponent_of_denotes (hpos : 0 < units) (hs : d.significand < 10 ^ (17 : Nat)) :
    -347 ≤ d.exponent := by
  have hdigits : Decimal.digitCount d.significand ≤ 17 :=
    (Nat.length_toDigits_le_iff (by decide) (by decide)).2 hs
  have horder : ¬ d.order < -330 := by
    intro hlt
    rw [Decimal.Denotes, Decimal.round, if_pos (.inr hlt)] at h
    exact Nat.ne_of_lt hpos h
  unfold Decimal.order at horder
  omega

end

end Binary64

end PolicyBench
