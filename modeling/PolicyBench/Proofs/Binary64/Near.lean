/-
  PolicyBench — how far rounding leads.

  A quotient is rounded to one of its two neighbours on the grid of the format, so it
  moves by no more than half the spacing of that grid.  A quotient that is very near to
  a number of the format is rounded to that number.

  * `two_mul_dist_roundUnits`: half the spacing at most;
  * `Near`: how far one number is off from another, in parts of it;
  * `near_roundUnits`: the 2^53-th part at most, for all but the smallest numbers;
  * `spacing_le_spacing_roundUnits`: the grid is not finer at the rounded number;
  * `roundUnits_of_near`: what is nearer than the 2^54-th part of a number of the format
    is rounded to it.
-/
import Mathlib.Algebra.Order.Field.Rat
import Mathlib.Data.Nat.Cast.Order.Field
import Mathlib.Tactic.FieldSimp
import Mathlib.Tactic.Linarith
import Mathlib.Tactic.Positivity
import Mathlib.Tactic.Ring
import PolicyBench.Proofs.Binary64.Order

namespace PolicyBench.Binary64

-- `2 ^ n` is the core library's power, also where another one is in scope.
attribute [local instance (high)] instPowNat

/-! ## Spacing -/

theorem lt_two_pow_spacing (n : Nat) : n < 2 ^ (53 + spacing n) := by
  have hlt := div_two_pow_spacing_lt n
  rwa [Nat.div_lt_iff_lt_mul (Nat.two_pow_pos _), ← Nat.pow_add] at hlt

theorem two_pow_le_of_spacing_pos {n : Nat} (h : 0 < spacing n) : 2 ^ (52 + spacing n) ≤ n := by
  have hlog : 52 + spacing n = n.log2 := by
    unfold spacing at h ⊢
    omega
  rw [hlog]
  refine Nat.log2_self_le fun hzero => ?_
  simp [spacing, hzero] at h

/-- Below that power of two the grid is at least as fine. -/
theorem spacing_le_of_lt {n k : Nat} (h : n < 2 ^ (53 + k)) : spacing n ≤ k := by
  rcases Nat.eq_zero_or_pos (spacing n) with hzero | hpos
  · omega
  · have hlt := Nat.lt_of_le_of_lt (two_pow_le_of_spacing_pos hpos) h
    have := (Nat.pow_lt_pow_iff_right (by decide : 1 < 2)).1 hlt
    omega

/-- The grid is not finer at the rounded number. -/
theorem spacing_le_spacing_roundUnits (num den : Nat) :
    spacing (num / den) ≤ spacing (roundUnits num den) := by
  rcases Nat.eq_zero_or_pos (spacing (num / den)) with hzero | hpos
  · omega
  · refine Nat.le_of_not_lt fun hlt => ?_
    have hle := two_pow_spacing_le_roundUnits hpos
    have := (Nat.pow_lt_pow_iff_right (by decide : 1 < 2)).1
      (Nat.lt_of_le_of_lt hle (lt_two_pow_spacing (roundUnits num den)))
    omega

/-! ## Parts of a number -/

/-- `x` is off from `y` by the `ε`-th part of `y` at most. -/
def Near (ε x y : ℚ) : Prop := |x - y| ≤ ε * y

namespace Near

variable {ε δ x y x' y' : ℚ}

theorem le (h : Near ε x y) : x ≤ (1 + ε) * y := by
  have := (abs_le.1 h).2
  linarith

theorem ge (h : Near ε x y) : (1 - ε) * y ≤ x := by
  have := (abs_le.1 h).1
  linarith

theorem mono (h : Near ε x y) (hy : 0 ≤ y) (hle : ε ≤ δ) : Near δ x y :=
  le_trans h (mul_le_mul_of_nonneg_right hle hy)

theorem mul (h : Near ε x y) (h' : Near δ x' y') (hy : 0 ≤ y) (hx' : 0 ≤ x') :
    Near (ε + δ + ε * δ) (x * x') (y * y') := by
  have hfirst : |(x - y) * x'| ≤ ε * y * ((1 + δ) * y') := by
    rw [abs_mul, abs_of_nonneg hx']
    exact mul_le_mul h h'.le hx' (le_trans (abs_nonneg _) h)
  have hsecond : |y * (x' - y')| ≤ y * (δ * y') := by
    rw [abs_mul, abs_of_nonneg hy]
    exact mul_le_mul_of_nonneg_left h' hy
  calc |x * x' - y * y'| = |(x - y) * x' + y * (x' - y')| := by ring_nf
    _ ≤ |(x - y) * x'| + |y * (x' - y')| := abs_add_le _ _
    _ ≤ ε * y * ((1 + δ) * y') + y * (δ * y') := add_le_add hfirst hsecond
    _ = (ε + δ + ε * δ) * (y * y') := by ring

theorem const_mul (h : Near ε x y) {c : ℚ} (hc : 0 ≤ c) : Near ε (c * x) (c * y) := by
  rw [Near, ← mul_sub, abs_mul, abs_of_nonneg hc, mul_left_comm]
  exact mul_le_mul_of_nonneg_left h hc

theorem inv (h : Near ε x y) (hy : 0 < y) (hε : ε < 1) : Near (ε / (1 - ε)) x⁻¹ y⁻¹ := by
  have hlow : 0 < (1 - ε) * y := mul_pos (by linarith) hy
  have hx : 0 < x := lt_of_lt_of_le hlow h.ge
  have hcancel : x⁻¹ - y⁻¹ = (y - x) / (x * y) := by field_simp
  have hε' : 0 ≤ ε := nonneg_of_mul_nonneg_left (le_trans (abs_nonneg _) h) hy
  rw [Near, hcancel, abs_div, abs_sub_comm, abs_of_pos (mul_pos hx hy)]
  calc |x - y| / (x * y) ≤ ε * y / (x * y) := div_le_div_of_nonneg_right h (mul_pos hx hy).le
    _ = ε / x := by field_simp
    _ ≤ ε / ((1 - ε) * y) := div_le_div_of_nonneg_left hε' hlow h.ge
    _ = ε / (1 - ε) * y⁻¹ := by field_simp

end Near

/-! ## Distance -/

/-- The part of a number by which rounding moves it at most, unless it is among the smallest. -/
def roundoff : ℚ := 1 / 2 ^ (53 : Nat)

theorem roundoff_pos : 0 < roundoff := by norm_num [roundoff]

/-- What dividing by a number adds to it. -/
theorem roundoff_div_le : roundoff / (1 - roundoff) ≤ 101 / 100 * roundoff := by
  norm_num [roundoff]

theorem two_mul_dist_roundHalfEven (num : Nat) {den : Nat} (hd : 0 < den) :
    2 * (roundHalfEven num den * den) ≤ 2 * num + den ∧
      2 * num ≤ 2 * (roundHalfEven num den * den) + den := by
  have hnum := Nat.div_add_mod num den
  have hrest := Nat.mod_lt num hd
  unfold roundHalfEven
  dsimp only
  split
  · rw [Nat.mul_comm (num / den)]
    omega
  · rw [Nat.add_mul, Nat.one_mul, Nat.mul_comm (num / den)]
    omega

section
variable (num : Nat) {den : Nat} (hd : 0 < den)
include hd

/-- **Rounding moves a quotient by no more than half the spacing.** -/
theorem two_mul_dist_roundUnits :
    2 * |(roundUnits num den : ℚ) - num / den| ≤ 2 ^ spacing (num / den) := by
  obtain ⟨hupper, hlower⟩ := two_mul_dist_roundHalfEven num
    (Nat.mul_pos hd (Nat.two_pow_pos (spacing (num / den))))
  have hd' : (0 : ℚ) < den := Nat.cast_pos.2 hd
  rw [← @Nat.cast_le ℚ] at hupper hlower
  unfold roundUnits
  dsimp only
  push_cast at hupper hlower ⊢
  generalize (2 : ℚ) ^ spacing (num / den) = step at *
  generalize (roundHalfEven num (den * 2 ^ spacing (num / den)) : ℚ) = m at *
  have hcancel : (num : ℚ) / den * den = num := div_mul_cancel₀ _ hd'.ne'
  rw [← abs_two (α := ℚ), ← abs_mul, abs_le]
  constructor
  · refine le_of_mul_le_mul_right ?_ hd'
    linarith
  · refine le_of_mul_le_mul_right ?_ hd'
    linarith

/-- The spacing is the 2^52-th part of the quotient at most, or one unit. -/
theorem two_pow_spacing_le (hone : spacing (num / den) ≠ 0 ∨ 2 ^ (52 : Nat) * den ≤ num) :
    (2 : ℚ) ^ spacing (num / den) ≤ num / den / 2 ^ (52 : Nat) := by
  have hle : 2 ^ (52 + spacing (num / den)) ≤ num / den := by
    rcases Nat.eq_zero_or_pos (spacing (num / den)) with hzero | hpos
    · rw [hzero, Nat.le_div_iff_mul_le hd]
      exact hone.resolve_left fun h => h hzero
    · exact two_pow_le_of_spacing_pos hpos
  have hcast : ((2 ^ (52 + spacing (num / den)) : Nat) : ℚ) ≤ num / den :=
    le_trans (Nat.cast_le.2 hle) Nat.cast_div_le
  rw [Nat.pow_add] at hcast
  push_cast at hcast
  rw [le_div_iff₀ (by positivity)]
  linarith

/-- **Rounding moves a quotient by no more than its 2^53-th part**, unless it is among the
    smallest. -/
theorem near_roundUnits (h : 2 ^ (52 : Nat) * den ≤ num) :
    Near roundoff (roundUnits num den) (num / den) := by
  have hdist := two_mul_dist_roundUnits num hd
  have hstep := two_pow_spacing_le num hd (.inr h)
  rw [Near, roundoff]
  linarith

/-- Among the smallest it moves by half a unit. -/
theorem dist_roundUnits_le_add :
    |(roundUnits num den : ℚ) - num / den| ≤ roundoff * (num / den) + 1 / 2 := by
  have hdist := two_mul_dist_roundUnits num hd
  have hpos : (0 : ℚ) ≤ num / den := by positivity
  rw [roundoff]
  by_cases hzero : spacing (num / den) = 0
  · rw [hzero, pow_zero] at hdist
    linarith
  · have hstep := two_pow_spacing_le num hd (.inl hzero)
    linarith

end

/-! ## What is near a number of the format -/

/-- Multiples of a power of two are at least that power apart. -/
theorem add_two_pow_le {m n k : Nat} (hm : 2 ^ k ∣ m) (hn : 2 ^ k ∣ n) (hlt : m < n) :
    m + 2 ^ k ≤ n := by
  have := Nat.le_of_dvd (Nat.sub_pos_of_lt hlt) (Nat.dvd_sub hn hm)
  omega

/-- Those that are less than it apart are equal. -/
theorem eq_of_dist_lt {m n k : Nat} (hm : 2 ^ k ∣ m) (hn : 2 ^ k ∣ n)
    (h : |(m : ℚ) - n| < 2 ^ k) : m = n := by
  obtain ⟨hlower, hupper⟩ := abs_lt.1 h
  rcases Nat.lt_trichotomy m n with hlt | heq | hlt
  · have hgap : ((m + 2 ^ k : Nat) : ℚ) ≤ n := Nat.cast_le.2 (add_two_pow_le hm hn hlt)
    push_cast at hgap
    linarith
  · exact heq
  · have hgap : ((n + 2 ^ k : Nat) : ℚ) ≤ m := Nat.cast_le.2 (add_two_pow_le hn hm hlt)
    push_cast at hgap
    linarith

section
variable {num den n : Nat}

/-- The quotient is below the end of its own grid. -/
theorem lt_gridEnd (num : Nat) (hd : 0 < den) :
    (num : ℚ) / den < 2 ^ (53 : Nat) * 2 ^ spacing (num / den) := by
  have hlt := lt_two_pow_spacing (num / den)
  rw [Nat.div_lt_iff_lt_mul hd, ← @Nat.cast_lt ℚ] at hlt
  push_cast at hlt
  rwa [div_lt_iff₀ (Nat.cast_pos.2 hd), ← pow_add]

/-- A quotient near to a number of a grid is not on a coarser one. -/
theorem spacing_le_of_near (hn : 2 ^ spacing n ∣ n)
    (h : |(num : ℚ) / den - n| < n / 2 ^ (54 : Nat)) : spacing (num / den) ≤ spacing n := by
  refine Nat.le_of_not_lt fun hlt => ?_
  have hend := lt_two_pow_spacing n
  have hpow : 2 ^ (53 + spacing n) ≤ num / den :=
    Nat.le_trans (Nat.pow_le_pow_right (by decide) (by omega))
      (two_pow_le_of_spacing_pos (by omega))
  -- the whole spacing up to the end of the finer grid lies in between
  have hgap := add_two_pow_le hn (Nat.pow_dvd_pow 2 (Nat.le_add_left ..)) hend
  have hle : ((n + 2 ^ spacing n : Nat) : ℚ) ≤ num / den :=
    le_trans (Nat.cast_le.2 (Nat.le_trans hgap hpow)) Nat.cast_div_le
  rw [Nat.pow_add, ← @Nat.cast_lt ℚ] at hend
  push_cast at hle hend
  linarith [(abs_lt.1 h).2]

/-- Nor is it on one that ends before the number. -/
theorem le_gridEnd_of_near (hd : 0 < den) (hn : 2 ^ spacing (num / den) ∣ n)
    (h : |(num : ℚ) / den - n| < n / 2 ^ (54 : Nat)) :
    (n : ℚ) ≤ 2 ^ (53 : Nat) * 2 ^ spacing (num / den) := by
  refine le_of_not_gt fun hlt => ?_
  have hend := lt_gridEnd num hd
  have hnat : 2 ^ (53 + spacing (num / den)) < n := by
    rw [← @Nat.cast_lt ℚ, Nat.pow_add]
    exact_mod_cast hlt
  have hgap := add_two_pow_le (Nat.pow_dvd_pow 2 (Nat.le_add_left ..)) hn hnat
  rw [Nat.pow_add, ← @Nat.cast_le ℚ] at hgap
  push_cast at hgap
  linarith [(abs_lt.1 h).1]

/-- **What is nearer than the 2^54-th part of a number of the format is rounded to it.** -/
theorem roundUnits_of_near (hd : 0 < den) (hn : Representable n)
    (h : |(num : ℚ) / den - n| < n / 2 ^ (54 : Nat)) : roundUnits num den = n := by
  have hdvd : 2 ^ spacing n ∣ n := by
    obtain ⟨-, significand, exponent, hs, rfl⟩ := hn
    exact two_pow_spacing_dvd hs exponent
  have hdvd' : 2 ^ spacing (num / den) ∣ n :=
    Nat.dvd_trans (Nat.pow_dvd_pow 2 (spacing_le_of_near hdvd h)) hdvd
  -- both are on the grid of the quotient, and each is within half its spacing
  refine eq_of_dist_lt (Nat.dvd_mul_left ..) hdvd' ?_
  have hdist := two_mul_dist_roundUnits num hd
  have hend := le_gridEnd_of_near hd hdvd' h
  have htriangle := abs_sub_le ((roundUnits num den : Nat) : ℚ) (num / den) n
  linarith

end

end PolicyBench.Binary64
