/-
  PolicyBench — how far the scaling of JSON numbers leads.

  A JSON number is worked out in steps that each round: the significand becomes a number
  of the format, the power of ten is one already, and a product or quotient is taken of
  the two, or two quotients.  So the result can miss the nearest number, but not by much,
  and where the steps lose nothing it is the nearest number.

  * `scaledUnits`: the units of what is worked out; `scale_eq`: where it does not become
    too large;
  * `productUnits_lt`: for a decimal that denotes a number it does not, but for one decimal;
  * `dist_scaledUnits_le`: six places at most from the number that the decimal denotes;
  * `scaledUnits_eq`: that number itself if no step rounds.
-/
import PolicyBench.Json.Number
import PolicyBench.Proofs.Binary64.Digits
import PolicyBench.Proofs.Binary64.Whole

namespace PolicyBench.Json

-- `2 ^ n` is the core library's power, also where another one is in scope.
attribute [local instance (high)] instPowNat

open Binary64

/-! ## Powers of ten -/

/-- The units of a power of ten, rounded. -/
def powerUnits (k : Nat) : Nat := wholeUnits (10 ^ k)

theorem unitsOfOne_le_powerUnits (k : Nat) : unitsOfOne ≤ powerUnits k :=
  unitsOfOne_le_wholeUnits (Nat.pos_iff_ne_zero.1 (Nat.pow_pos (by decide)))

theorem powerUnits_pos (k : Nat) : 0 < powerUnits k :=
  Nat.lt_of_lt_of_le unitsOfOne_pos (unitsOfOne_le_powerUnits k)

/-- The format has powers of ten up to 10^308. -/
theorem powerUnits_lt {k : Nat} (hk : k ≤ 308) : powerUnits k < overflowUnits := by
  have hbound : 10 ^ (308 : Nat) * unitsOfOne < overflowBound := by decide +kernel
  rw [powerUnits, wholeUnits, ← Nat.not_le, overflowUnits_le_roundUnits_iff Nat.one_pos,
    Nat.mul_one, Nat.not_le]
  generalize 308 = n at hk hbound
  exact Nat.lt_of_le_of_lt (Nat.mul_le_mul_right _ (Nat.pow_le_pow_right (by decide) hk)) hbound

theorem representable_powerUnits {k : Nat} (hk : k ≤ 308) : Representable (powerUnits k) :=
  ⟨powerUnits_lt hk, roundUnits_eq_mul _ _⟩

theorem powerOfTen_eq {k : Nat} (hk : k ≤ 308) :
    powerOfTen k = finite false (powerUnits k) (representable_powerUnits hk) := by
  have hnumerator : Decimal.numerator ⟨1, k⟩ = 10 ^ k * unitsOfOne := by
    rw [Decimal.numerator, Nat.one_mul, Int.toNat_natCast]
  have hdenominator : Decimal.denominator ⟨1, k⟩ = 1 := by
    rw [Decimal.denominator, Int.toNat_neg_natCast, Nat.pow_zero]
  have hround : roundUnits (10 ^ k * unitsOfOne) 1 = powerUnits k := rfl
  rw [powerOfTen, Decimal.round_eq_ofRatio, hnumerator, hdenominator]
  exact ofRatio_of_roundUnits false hround (representable_powerUnits hk)

/-! ## Steps -/

/-- The units of a number times a power of ten. -/
def productUnits (units k : Nat) : Nat := roundUnits (units * powerUnits k) unitsOfOne

/-- The units of a number divided by a power of ten. -/
def quotientUnits (units k : Nat) : Nat := roundUnits (units * unitsOfOne) (powerUnits k)

theorem representable_productUnits {units k : Nat} (hlt : productUnits units k < overflowUnits) :
    Representable (productUnits units k) :=
  ⟨hlt, roundUnits_eq_mul _ _⟩

theorem quotientUnits_le {units : Nat} (hr : Representable units) (k : Nat) :
    quotientUnits units k ≤ units :=
  roundUnits_le (powerUnits_pos k) hr (Nat.mul_le_mul_left _ (unitsOfOne_le_powerUnits k))

theorem representable_quotientUnits {units : Nat} (hr : Representable units) (k : Nat) :
    Representable (quotientUnits units k) :=
  ⟨Nat.lt_of_le_of_lt (quotientUnits_le hr k) hr.1, roundUnits_eq_mul _ _⟩

theorem quotientUnits_zero (k : Nat) : quotientUnits 0 k = 0 := by
  rw [quotientUnits, Nat.zero_mul, roundUnits_zero (powerUnits_pos k)]

theorem mul_powerOfTen {units k : Nat} (hr : Representable units) (hk : k ≤ 308)
    (hlt : productUnits units k < overflowUnits) :
    finite false units hr * powerOfTen k =
      finite false (productUnits units k) (representable_productUnits hlt) := by
  have hround : roundUnits (units * powerUnits k) unitsOfOne = productUnits units k := rfl
  rw [powerOfTen_eq hk]
  change mul (finite false units hr) (finite false (powerUnits k) _) = _
  rw [mul, Bool.xor_false]
  exact ofRatio_of_roundUnits false hround (representable_productUnits hlt)

theorem div_powerOfTen {units k : Nat} (hr : Representable units) (hk : k ≤ 308) :
    finite false units hr / powerOfTen k =
      finite false (quotientUnits units k) (representable_quotientUnits hr k) := by
  have hround : roundUnits (units * unitsOfOne) (powerUnits k) = quotientUnits units k := rfl
  rw [powerOfTen_eq hk]
  change div (finite false units hr) (finite false (powerUnits k) _) = _
  rw [div, if_neg (Nat.pos_iff_ne_zero.1 (powerUnits_pos k)), Bool.xor_false]
  exact ofRatio_of_roundUnits false hround (representable_quotientUnits hr k)

section
variable {units : Nat} (hr : Representable units) {e : Int}

/-- Scaling up. -/
theorem scale_of_nonneg (hlow : 0 ≤ e) (hhigh : e ≤ 308)
    (hlt : productUnits units e.natAbs < overflowUnits) :
    scale (finite false units hr) e =
      .ok (finite false (productUnits units e.natAbs) (representable_productUnits hlt)) := by
  rw [scale, if_pos (by omega), if_pos hlow, mul_powerOfTen hr (by omega) hlt]
  exact if_pos rfl

/-- Scaling down in one step. -/
theorem scale_of_neg (hlow : -308 ≤ e) (hhigh : e < 0) :
    scale (finite false units hr) e =
      .ok (finite false (quotientUnits units e.natAbs) (representable_quotientUnits hr _)) := by
  rw [scale, if_pos (by omega), if_neg (by omega), div_powerOfTen hr (by omega)]

/-- Scaling down in two steps. -/
theorem scale_of_far (hlow : -616 ≤ e) (hhigh : e < -308) :
    scale (finite false units hr) e =
      .ok (finite false (quotientUnits (quotientUnits units 308) (e.natAbs - 308))
        (representable_quotientUnits (representable_quotientUnits hr _) _)) := by
  rw [scale, if_neg (by omega)]
  split
  · next hzero =>
    -- a zero is not scaled at all, but dividing it changes nothing either
    obtain rfl : units = 0 := by simpa [isZero] using hzero
    simp only [quotientUnits_zero]
  · have habs : (e + 308).natAbs = e.natAbs - 308 := by omega
    rw [if_neg (by omega), div_powerOfTen hr (by omega), ← habs]
    exact scale_of_neg _ (by omega) (by omega)

end

/-! ## The result -/

/-- The units of what is worked out for a decimal. -/
def scaledUnits (d : Decimal) : Nat :=
  let units := wholeUnits d.significand
  let k := d.exponent.natAbs
  if 0 ≤ d.exponent then productUnits units k
  else if k ≤ 308 then quotientUnits units k
  else quotientUnits (quotientUnits units 308) (k - 308)

/-- **What is worked out is a finite number**, if it does not become too large. -/
theorem scale_eq {d : Decimal} (hs : d.significand ≤ 2 ^ (64 : Nat)) (hlow : -616 ≤ d.exponent)
    (hhigh : d.exponent ≤ 308)
    (hlt : 0 ≤ d.exponent →
      productUnits (wholeUnits d.significand) d.exponent.natAbs < overflowUnits) :
    ∃ hr, scale (.ofNat d.significand) d.exponent = .ok (finite false (scaledUnits d) hr) := by
  obtain ⟨hr, hof⟩ := ofNat_eq_wholeUnits hs
  rw [hof]
  unfold scaledUnits
  dsimp only
  rcases Int.lt_or_le d.exponent 0 with hneg | hnonneg
  · rcases Int.lt_or_le d.exponent (-308) with hfar | hnear
    · simp only [if_neg (Int.not_le.2 hneg), if_neg (by omega : ¬ d.exponent.natAbs ≤ 308)]
      exact ⟨representable_quotientUnits (representable_quotientUnits hr _) _,
        scale_of_far hr hlow hfar⟩
    · simp only [if_neg (Int.not_le.2 hneg), if_pos (by omega : d.exponent.natAbs ≤ 308)]
      exact ⟨representable_quotientUnits hr _, scale_of_neg hr hnear hneg⟩
  · simp only [if_pos hnonneg]
    exact ⟨representable_productUnits (hlt hnonneg),
      scale_of_nonneg hr hnonneg hhigh (hlt hnonneg)⟩

/-! ## What does not become too large -/

/-- The one decimal that denotes a number, the greatest one, and becomes too large when it is
    scaled. -/
def borderline : Decimal := ⟨17976931348623158, 292⟩

/-- The greatest significand that needs to be looked at with `10 ^ k`, from `10 ^ 292` on. -/
def greatestSignificand (k : Nat) : Nat :=
  if k = 292 then 17976931348623157 else (overflowBound - 1) / (10 ^ k * unitsOfOne)

theorem le_greatestSignificand {s k : Nat} (h : s * 10 ^ k * unitsOfOne < overflowBound)
    (hne : (⟨s, k⟩ : Decimal) ≠ borderline) : s ≤ greatestSignificand k := by
  have hle : s ≤ (overflowBound - 1) / (10 ^ k * unitsOfOne) := by
    rw [Nat.le_div_iff_mul_le (Nat.mul_pos (Nat.pow_pos (by decide)) unitsOfOne_pos),
      ← Nat.mul_assoc]
    exact Nat.le_sub_one_of_lt h
  unfold greatestSignificand
  split
  · next hk =>
    subst hk
    have hbound : (overflowBound - 1) / (10 ^ (292 : Nat) * unitsOfOne) = 17976931348623158 := by
      decide +kernel
    rw [hbound] at hle
    exact Nat.le_of_lt_succ (Nat.lt_of_le_of_ne hle fun heq => hne (heq ▸ rfl))
  · exact hle

theorem mul_powerUnits_lt {s k : Nat} (h : s * 10 ^ k * unitsOfOne < overflowBound)
    (hs : s ≤ 10 ^ (17 : Nat)) (hk : k ≤ 308)
    (hne : (⟨s, k⟩ : Decimal) ≠ borderline) :
    wholeUnits s * powerUnits k < overflowBound * unitsOfOne := by
  rcases Nat.lt_or_ge k 292 with hlt | hge
  · have hbound : wholeUnits (10 ^ (17 : Nat)) * powerUnits 291 < overflowBound * unitsOfOne := by
      decide +kernel
    have hk : k ≤ 291 := Nat.le_of_lt_succ hlt
    generalize 291 = n at hk hbound
    refine Nat.lt_of_le_of_lt (Nat.mul_le_mul (wholeUnits_mono hs) ?_) hbound
    exact wholeUnits_mono (Nat.pow_le_pow_right (by decide) hk)
  · have hall : ∀ j < 17, wholeUnits (greatestSignificand (292 + j)) * powerUnits (292 + j) <
        overflowBound * unitsOfOne := by
      decide +kernel
    have hbound := hall (k - 292) (by omega)
    rw [Nat.add_sub_cancel' hge] at hbound
    exact Nat.lt_of_le_of_lt
      (Nat.mul_le_mul_right _ (wholeUnits_mono (le_greatestSignificand h hne))) hbound

/-- **What denotes a number does not become too large** when it is scaled up. -/
theorem productUnits_lt {d : Decimal} {units : Nat} (h : d.Denotes units)
    (hr : Representable units) (hs : d.significand < 10 ^ (17 : Nat)) (hlow : 0 ≤ d.exponent)
    (hhigh : d.exponent ≤ 308) (hne : d ≠ borderline) :
    productUnits (wholeUnits d.significand) d.exponent.natAbs < overflowUnits := by
  have hfits := Decimal.not_tooLarge_of_denotes h hr
  obtain ⟨s, e⟩ := d
  obtain ⟨k, rfl⟩ := Int.eq_ofNat_of_zero_le hlow
  rw [Decimal.TooLarge, Decimal.numerator, Decimal.denominator, Int.toNat_neg_natCast,
    Nat.pow_zero, Nat.mul_one, Int.toNat_natCast, Nat.not_le] at hfits
  rw [← Nat.not_le, productUnits, overflowUnits_le_roundUnits_iff unitsOfOne_pos, Nat.not_le,
    Int.natAbs_natCast]
  exact mul_powerUnits_lt hfits hs.le (Int.ofNat_le.1 hhigh) hne

/-! ## Distance -/

theorem near_wholeUnits {n : Nat} (h : n ≠ 0) : Near roundoff (wholeUnits n) (n * unitsOfOne) := by
  have hone : 2 ^ (52 : Nat) * 1 ≤ unitsOfOne := Nat.le_trans (by decide) two_pow_64_le_unitsOfOne
  have hle := Nat.le_trans hone (Nat.le_mul_of_pos_left unitsOfOne (Nat.pos_of_ne_zero h))
  have hnear := near_roundUnits (n * unitsOfOne) Nat.one_pos hle
  rw [Nat.cast_one, div_one, Nat.cast_mul] at hnear
  exact hnear

/-- A rounded power of ten. -/
theorem near_power (k : Nat) : Near roundoff (powerUnits k / unitsOfOne) (10 ^ k) := by
  have hnear := near_wholeUnits (Nat.pos_iff_ne_zero.1 (Nat.pow_pos (by decide) : 0 < 10 ^ k))
  have hone := unitsOfOne_pos'
  have hscaled := hnear.const_mul (inv_nonneg.2 hone.le)
  rw [Nat.cast_pow, Nat.cast_ofNat, mul_comm (10 ^ k : ℚ), inv_mul_cancel_left₀ hone.ne',
    ← div_eq_inv_mul] at hscaled
  exact hscaled

/-- Its reciprocal. -/
theorem near_power_inv (k : Nat) :
    Near (101 / 100 * roundoff) (unitsOfOne / powerUnits k) (10 ^ k)⁻¹ := by
  have hten : (0 : ℚ) < 10 ^ k := pow_pos (by norm_num) k
  have hinv := (near_power k).inv hten (by norm_num [roundoff])
  rw [inv_div] at hinv
  exact hinv.mono (inv_pos.2 hten).le roundoff_div_le

/-- A number `q` that is near to `y` is rounded to `r`, and that is multiplied by a factor
    near to `t`. -/
theorem dist_two_steps {r q c y t : ℚ} (hr : 0 ≤ r) (hy : 0 ≤ y) (ht : 0 ≤ t) (hsmall : t ≤ 1 / 10)
    (hfirst : Near (101 / 50 * roundoff) q y) (hround : |r - q| ≤ roundoff * q + 1 / 2)
    (hsecond : Near (101 / 100 * roundoff) c t) :
    |r * c - y * t| ≤ 41 / 10 * roundoff * (y * t) + 1 / 10 := by
  have hdist : |r - y| ≤ 76 / 25 * roundoff * y + 1 / 2 := by
    have htriangle := abs_sub_le r q y
    have hq := hfirst.le
    rw [Near] at hfirst
    rw [roundoff] at *
    linarith
  have hle : r ≤ 101 / 100 * y + 1 / 2 := by
    have hupper := (abs_le.1 hdist).2
    rw [roundoff] at hupper
    linarith
  have hstep : |(r - y) * t| ≤ (76 / 25 * roundoff * y + 1 / 2) * t := by
    rw [abs_mul, abs_of_nonneg ht]
    exact mul_le_mul_of_nonneg_right hdist ht
  have hstep' : |r * (c - t)| ≤ (101 / 100 * y + 1 / 2) * (101 / 100 * roundoff * t) := by
    rw [abs_mul, abs_of_nonneg hr]
    exact mul_le_mul hle hsecond (abs_nonneg _) (le_trans hr hle)
  have hyt := mul_nonneg hy ht
  calc |r * c - y * t| = |(r - y) * t + r * (c - t)| := by ring_nf
    _ ≤ |(r - y) * t| + |r * (c - t)| := abs_add_le _ _
    _ ≤ (76 / 25 * roundoff * y + 1 / 2) * t +
          (101 / 100 * y + 1 / 2) * (101 / 100 * roundoff * t) := add_le_add hstep hstep'
    _ ≤ 41 / 10 * roundoff * (y * t) + 1 / 10 := by
      rw [roundoff]
      linarith

section
variable {s : Nat} (hs : s ≠ 0) (k : Nat)
include hs

theorem near_product :
    Near (101 / 50 * roundoff) ((wholeUnits s * powerUnits k : Nat) / (unitsOfOne : Nat))
      (s * 10 ^ k * unitsOfOne) := by
  have hnonneg : (0 : ℚ) ≤ s * unitsOfOne := mul_nonneg (Nat.cast_nonneg _) (Nat.cast_nonneg _)
  have hten : (0 : ℚ) ≤ 10 ^ k := pow_nonneg (by norm_num) k
  have hmul := (near_wholeUnits hs).mul (near_power k) hnonneg
    (div_nonneg (Nat.cast_nonneg _) (Nat.cast_nonneg _))
  rw [mul_right_comm, Nat.cast_mul, mul_div_assoc]
  exact hmul.mono (mul_nonneg hnonneg hten) (by norm_num [roundoff])

theorem near_quotient :
    Near (101 / 50 * roundoff) ((wholeUnits s * unitsOfOne : Nat) / (powerUnits k : Nat))
      (s * (10 ^ k)⁻¹ * unitsOfOne) := by
  have hnonneg : (0 : ℚ) ≤ s * unitsOfOne := mul_nonneg (Nat.cast_nonneg _) (Nat.cast_nonneg _)
  have hten : (0 : ℚ) ≤ (10 ^ k)⁻¹ := inv_nonneg.2 (pow_nonneg (by norm_num) k)
  have hmul := (near_wholeUnits hs).mul (near_power_inv k) hnonneg
    (div_nonneg (Nat.cast_nonneg _) (Nat.cast_nonneg _))
  rw [mul_right_comm, Nat.cast_mul, mul_div_assoc]
  exact hmul.mono (mul_nonneg hnonneg hten) (by norm_num [roundoff])

/-- The first of two quotients may be among the smallest numbers; what that costs is divided
    by ten at least. -/
theorem dist_two_quotients {j : Nat} (hj : 1 ≤ j) :
    |((quotientUnits (wholeUnits s) k * unitsOfOne : Nat) : ℚ) / powerUnits j -
        s * (10 ^ (k + j))⁻¹ * unitsOfOne| ≤
      41 / 10 * roundoff * (s * (10 ^ (k + j))⁻¹ * unitsOfOne) + 1 / 10 := by
  have hround := dist_roundUnits_le_add (wholeUnits s * unitsOfOne) (powerUnits_pos k)
  have hsmall : ((10 : ℚ) ^ j)⁻¹ ≤ 1 / 10 := by
    rw [← one_div]
    exact one_div_le_one_div_of_le (by norm_num) (le_self_pow₀ (by norm_num) (by omega))
  rw [Nat.cast_mul, mul_div_assoc, pow_add, mul_inv, ← mul_assoc, mul_right_comm]
  exact dist_two_steps (Nat.cast_nonneg _)
    (mul_nonneg (mul_nonneg (Nat.cast_nonneg _) (by positivity)) (Nat.cast_nonneg _))
    (by positivity) hsmall (near_quotient hs k) hround (near_power_inv j)

end

/-- What is rounded in the end is near to the value of the decimal. -/
theorem exists_scaledUnits_eq {d : Decimal} (hs : d.significand ≠ 0) :
    ∃ num den : Nat, 0 < den ∧ scaledUnits d = roundUnits num den ∧
      |(num : ℚ) / den - d.value| ≤ 41 / 10 * roundoff * d.value + 1 / 10 := by
  have hvalue : 0 ≤ d.value :=
    mul_nonneg (mul_nonneg (Nat.cast_nonneg _) (zpow_nonneg (by norm_num) _)) (Nat.cast_nonneg _)
  have hnear {x : ℚ} (h : Near (101 / 50 * roundoff) x d.value) :
      |x - d.value| ≤ 41 / 10 * roundoff * d.value + 1 / 10 := by
    have hpart : 101 / 50 * roundoff ≤ 41 / 10 * roundoff :=
      mul_le_mul_of_nonneg_right (by norm_num) roundoff_pos.le
    exact le_add_of_le_of_nonneg (h.mono hvalue hpart) (by norm_num)
  unfold scaledUnits
  dsimp only
  rcases Int.lt_or_le d.exponent 0 with hneg | hnonneg
  · obtain ⟨k, hk⟩ := Int.exists_eq_neg_ofNat hneg.le
    have hpow : (10 : ℚ) ^ d.exponent = (10 ^ k)⁻¹ := by rw [hk, zpow_neg, zpow_natCast]
    rw [if_neg (Int.not_le.2 hneg), hk, Int.natAbs_neg, Int.natAbs_natCast]
    rw [Decimal.value, hpow] at hnear ⊢
    split
    · exact ⟨_, _, powerUnits_pos k, rfl, hnear (near_quotient hs k)⟩
    · next hfar =>
      refine ⟨_, _, powerUnits_pos (k - 308), rfl, ?_⟩
      have hdist := dist_two_quotients hs 308 (j := k - 308) (by omega)
      rwa [show 308 + (k - 308) = k by omega] at hdist
  · obtain ⟨k, hk⟩ := Int.eq_ofNat_of_zero_le hnonneg
    have hpow : (10 : ℚ) ^ d.exponent = 10 ^ k := by rw [hk, zpow_natCast]
    rw [if_pos hnonneg, hk, Int.natAbs_natCast]
    rw [Decimal.value, hpow] at hnear ⊢
    exact ⟨_, _, unitsOfOne_pos, rfl, hnear (near_product hs k)⟩

theorem scaledUnits_of_zero {d : Decimal} (hs : d.significand = 0) : scaledUnits d = 0 := by
  have hwhole : wholeUnits d.significand = 0 := by
    rw [hs, wholeUnits, Nat.zero_mul, roundUnits_zero Nat.one_pos]
  have hproduct (k : Nat) : productUnits 0 k = 0 := by
    rw [productUnits, Nat.zero_mul, roundUnits_zero unitsOfOne_pos]
  unfold scaledUnits
  simp only [hwhole, hproduct, quotientUnits_zero, ite_self]

/-- What is within five places of a number of the format is rounded to within six. -/
theorem dist_roundUnits_le_six {num den n : Nat} (hd : 0 < den)
    (h : |(num : ℚ) / den - n| ≤ 5 * 2 ^ spacing n) :
    |(roundUnits num den : ℚ) - n| ≤ 6 * 2 ^ spacing n := by
  have hround := two_mul_dist_roundUnits num hd
  have hn : (n : ℚ) < 2 ^ (53 : Nat) * 2 ^ spacing n := by
    rw [← pow_add]
    exact_mod_cast lt_two_pow_spacing n
  -- the quotient is less than twice the end of the grid of the number
  have hspacing : spacing (num / den) ≤ spacing n + 1 := by
    refine spacing_le_of_lt ?_
    have hupper := (abs_le.1 h).2
    have hquot : (num : ℚ) / den < 2 ^ (53 : Nat) * 2 ^ spacing n * 2 := by
      have hpos : (0 : ℚ) < 2 ^ spacing n := by positivity
      linarith
    rw [div_lt_iff₀ (Nat.cast_pos.2 hd), ← pow_add, ← pow_succ] at hquot
    rw [Nat.div_lt_iff_lt_mul hd]
    exact_mod_cast hquot
  have hstep : (2 : ℚ) ^ spacing (num / den) ≤ 2 ^ spacing n * 2 := by
    rw [← pow_succ]
    exact pow_le_pow_right₀ (by norm_num) hspacing
  have htriangle := abs_sub_le (roundUnits num den : ℚ) (num / den) n
  linarith

section
variable {d : Decimal} {units : Nat} (h : d.Denotes units) (hr : Representable units)
include h hr

theorem two_mul_dist_value_le : 2 * |d.value - units| ≤ 2 ^ spacing units := by
  have hround := roundUnits_of_denotes h hr
  have hdist := two_mul_dist_roundUnits d.numerator d.denominator_pos
  have hspacing := spacing_le_spacing_roundUnits d.numerator d.denominator
  rw [hround] at hdist hspacing
  rw [Decimal.numerator_div_denominator, abs_sub_comm] at hdist
  exact le_trans hdist (pow_le_pow_right₀ (by norm_num) hspacing)

/-- **What is worked out is within six places of the number that the decimal denotes.** -/
theorem dist_scaledUnits_le : |(scaledUnits d : ℚ) - units| ≤ 6 * 2 ^ spacing units := by
  by_cases hs : d.significand = 0
  · rw [scaledUnits_of_zero hs, ← roundUnits_of_denotes h hr, Decimal.numerator, hs, Nat.zero_mul,
      Nat.zero_mul, roundUnits_zero d.denominator_pos, Nat.cast_zero, sub_zero, abs_zero]
    positivity
  · obtain ⟨num, den, hd, hround, hnear⟩ := exists_scaledUnits_eq hs
    have hvalue := two_mul_dist_value_le h hr
    have hunits : (units : ℚ) < 2 ^ (53 : Nat) * 2 ^ spacing units := by
      rw [← pow_add]
      exact_mod_cast lt_two_pow_spacing units
    have hone : (1 : ℚ) ≤ 2 ^ spacing units := one_le_pow₀ (by norm_num)
    -- half a place from the number to the decimal, a little more than four to what is rounded
    rw [hround]
    refine dist_roundUnits_le_six hd ?_
    have htriangle := abs_sub_le ((num : ℚ) / den) d.value units
    have hupper := (abs_le.1 (by linarith : |d.value - units| ≤ 2 ^ spacing units / 2)).2
    rw [roundoff] at hnear
    linarith

end

/-! ## Where nothing is lost -/

/-- Powers of ten up to 10^22 are numbers of the format. -/
theorem powerUnits_of_le {k : Nat} (hk : k ≤ 22) : powerUnits k = 10 ^ k * unitsOfOne := by
  have hfive : 5 ^ k < 2 ^ (53 : Nat) :=
    Nat.lt_of_le_of_lt (Nat.pow_le_pow_right (by decide) hk) (by decide)
  have hten : 10 ^ k = 5 ^ k * 2 ^ k := by rw [← Nat.mul_pow]
  refine wholeUnits_of_representable ?_
  rw [hten]
  exact representable_shifted hfive (by omega)

/-- **If no step but the last one rounds, the result is the number that the decimal
    denotes.** -/
theorem scaledUnits_eq {d : Decimal} {units : Nat} (h : d.Denotes units)
    (hr : Representable units) (hs : d.significand ≤ 2 ^ (53 : Nat))
    (he : d.exponent.natAbs ≤ 22) : scaledUnits d = units := by
  rw [← roundUnits_of_denotes h hr]
  unfold scaledUnits
  dsimp only
  rw [wholeUnits_of_le hs]
  rcases Int.lt_or_le d.exponent 0 with hneg | hnonneg
  · have hnatAbs : (-d.exponent).toNat = d.exponent.natAbs := by omega
    have hzero : d.exponent.toNat = 0 := by omega
    rw [if_neg (Int.not_le.2 hneg), if_pos (by omega), quotientUnits, powerUnits_of_le he]
    refine roundUnits_congr (Nat.mul_pos (Nat.pow_pos (by decide)) unitsOfOne_pos)
      d.denominator_pos ?_
    rw [Decimal.numerator, Decimal.denominator, hnatAbs, hzero, Nat.pow_zero, Nat.mul_one]
    ring
  · have hnatAbs : d.exponent.toNat = d.exponent.natAbs := by omega
    have hzero : (-d.exponent).toNat = 0 := by omega
    rw [if_pos hnonneg, productUnits, powerUnits_of_le he]
    refine roundUnits_congr unitsOfOne_pos d.denominator_pos ?_
    rw [Decimal.numerator, Decimal.denominator, hnatAbs, hzero, Nat.pow_zero, Nat.mul_one]
    ring

end PolicyBench.Json
