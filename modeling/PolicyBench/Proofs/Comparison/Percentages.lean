/-
  PolicyBench — what a percentage says about two counts.

  A percentage is worked out in three steps after the counts have become numbers of
  the format, and every step rounds.  Still it is finite, never more than a hundred,
  and never greater for the greater count.  Its sign is that of the difference of
  the rounded counts: never the wrong one, but zero if different counts have become
  the same number.

  * `differenceUnits`, `quotientUnits`, `percentUnits`: the values of the three
    steps, and `value?_percentBelow`: that they are;
  * `percentUnits_le`, `percentUnits_anti`, `sign_percentUnits`: bound, order, sign;
  * `percentBelow_anti`, `percentBelow_sign`, `percentBelow_self`: the same as numbers;
  * `PercentOf`: what a percentage says about the counts it was worked out from, and
    `percentOf_percentBelow`, `percentOf_conflictReduction`: that it does.
-/
import PolicyBench.Proofs.Binary64.Whole
import PolicyBench.Comparison

namespace PolicyBench

-- `2 ^ n` is the core library's power, also where another one is in scope.
attribute [local instance (high)] instPowNat

open Binary64

/-! ## The three steps -/

/-- The value of the difference. -/
def differenceUnits (b v : Nat) : Int := roundSigned (wholeUnits b - wholeUnits v) 1

/-- The value of the quotient. -/
def quotientUnits (b v : Nat) : Int :=
  roundSigned (differenceUnits b v * unitsOfOne) (wholeUnits b)

/-- The value of the percentage. -/
def percentUnits (b v : Nat) : Int :=
  roundSigned (quotientUnits b v * (100 * unitsOfOne : Nat)) unitsOfOne

theorem wholeUnits_pos {n : Nat} (h : n ≠ 0) : 0 < wholeUnits n :=
  Nat.lt_of_lt_of_le unitsOfOne_pos (unitsOfOne_le_wholeUnits h)

theorem toNat_ne_zero {b : UInt64} (hb : b ≠ 0) : b.toNat ≠ 0 := fun h => hb (UInt64.toNat_inj.1 h)

theorem representable_hundred : Representable (100 * unitsOfOne) :=
  representable_mul_unitsOfOne (by decide)

/-! ## Sizes -/

section
variable {b v : Nat}

theorem natAbs_exactDifference_le (hb : b ≤ 2 ^ (64 : Nat)) (hv : v ≤ 2 ^ (64 : Nat)) :
    ((wholeUnits b : Int) - wholeUnits v).natAbs ≤ 2 ^ (64 : Nat) * unitsOfOne := by
  have hb' := wholeUnits_le hb
  have hv' := wholeUnits_le hv
  omega

theorem natAbs_differenceUnits_le (hb : b ≤ 2 ^ (64 : Nat)) (hv : v ≤ 2 ^ (64 : Nat)) :
    (differenceUnits b v).natAbs ≤ 2 ^ (64 : Nat) * unitsOfOne := by
  rw [differenceUnits, natAbs_roundSigned]
  refine roundUnits_le Nat.one_pos representable_two_pow_64 ?_
  rw [Nat.mul_one]
  exact natAbs_exactDifference_le hb hv

/-- Divided by one or more, the difference is not greater than before. -/
theorem natAbs_exactQuotient_le (hzero : b ≠ 0) (hb : b ≤ 2 ^ (64 : Nat))
    (hv : v ≤ 2 ^ (64 : Nat)) :
    (differenceUnits b v).natAbs * unitsOfOne ≤ 2 ^ (64 : Nat) * unitsOfOne * wholeUnits b :=
  Nat.mul_le_mul (natAbs_differenceUnits_le hb hv) (unitsOfOne_le_wholeUnits hzero)

theorem natAbs_quotientUnits_le (hzero : b ≠ 0) (hb : b ≤ 2 ^ (64 : Nat))
    (hv : v ≤ 2 ^ (64 : Nat)) : (quotientUnits b v).natAbs ≤ 2 ^ (64 : Nat) * unitsOfOne := by
  rw [quotientUnits, natAbs_roundSigned, Int.natAbs_mul, Int.natAbs_natCast]
  exact roundUnits_le (wholeUnits_pos hzero) representable_two_pow_64
    (natAbs_exactQuotient_le hzero hb hv)

theorem natAbs_exactPercent_le (hzero : b ≠ 0) (hb : b ≤ 2 ^ (64 : Nat))
    (hv : v ≤ 2 ^ (64 : Nat)) : (quotientUnits b v).natAbs * (100 * unitsOfOne) ≤
      100 * 2 ^ (64 : Nat) * unitsOfOne * unitsOfOne :=
  calc (quotientUnits b v).natAbs * (100 * unitsOfOne)
      ≤ 2 ^ (64 : Nat) * unitsOfOne * (100 * unitsOfOne) :=
        Nat.mul_le_mul_right _ (natAbs_quotientUnits_le hzero hb hv)
    _ = 100 * 2 ^ (64 : Nat) * unitsOfOne * unitsOfOne := by
        generalize unitsOfOne = one
        generalize 2 ^ (64 : Nat) = top
        ac_rfl

end

/-- No step leaves the range: the percentage has this value. -/
theorem value?_percentBelow {b : UInt64} (hzero : b ≠ 0) (v : UInt64) :
    (percentBelow b v).value? = some (percentUnits b.toNat v.toNat) := by
  have hne := toNat_ne_zero hzero
  have hb : b.toNat ≤ 2 ^ (64 : Nat) := Nat.le_of_lt b.toNat_lt
  have hv : v.toNat ≤ 2 ^ (64 : Nat) := Nat.le_of_lt v.toNat_lt
  have hdifference := value?_sub (value?_ofNat hb) (value?_ofNat hv) representable_two_pow_64
    (natAbs_exactDifference_le hb hv)
  obtain ⟨hr, hbase⟩ := ofNat_eq_wholeUnits hb
  have hquotient := value?_div hdifference hr representable_two_pow_64 (wholeUnits_pos hne)
    (natAbs_exactQuotient_le hne hb hv)
  have hbound : Representable (100 * 2 ^ (64 : Nat) * unitsOfOne) :=
    representable_shifted (by decide) (by decide)
  rw [← hbase] at hquotient
  have hpercent := value?_mul hquotient representable_hundred hbound
    (natAbs_exactPercent_le hne hb hv)
  rw [← ofNat_eq_finite (by decide)] at hpercent
  exact hpercent

/-! ## Bound, order and sign -/

section
variable {b v v' : Nat} (hzero : b ≠ 0)

/-- Not more than everything is saved. -/
theorem differenceUnits_le (hb : b ≤ 2 ^ (64 : Nat)) : differenceUnits b v ≤ wholeUnits b := by
  obtain ⟨hr, -⟩ := ofNat_eq_wholeUnits hb
  exact roundSigned_le Nat.one_pos hr (by omega)

theorem differenceUnits_anti (h : v ≤ v') : differenceUnits b v' ≤ differenceUnits b v := by
  have hmono := wholeUnits_mono h
  exact roundSigned_mono Nat.one_pos (by omega)

/-- Different whole numbers differ by one at least, also when rounded. -/
theorem unitsOfOne_le_exactDifference (h : (wholeUnits b : Int) - wholeUnits v ≠ 0) :
    unitsOfOne ≤ ((wholeUnits b : Int) - wholeUnits v).natAbs := by
  refine Nat.le_of_dvd (Int.natAbs_pos.2 h) (Int.ofNat_dvd_left.1 ?_)
  exact Int.dvd_sub (Int.natCast_dvd_natCast.2 (unitsOfOne_dvd_wholeUnits b))
    (Int.natCast_dvd_natCast.2 (unitsOfOne_dvd_wholeUnits v))

theorem sign_differenceUnits :
    (differenceUnits b v).sign = ((wholeUnits b : Int) - wholeUnits v).sign :=
  sign_roundSigned Nat.one_pos fun h => Int.natAbs_pos.2 h

theorem unitsOfOne_le_differenceUnits (h : differenceUnits b v ≠ 0) :
    unitsOfOne ≤ (differenceUnits b v).natAbs := by
  have hexact : (wholeUnits b : Int) - wholeUnits v ≠ 0 := by
    intro hzero
    have hsign := sign_differenceUnits (b := b) (v := v)
    rw [hzero, Int.sign_zero] at hsign
    exact h (Int.eq_zero_of_sign_eq_zero hsign)
  rw [differenceUnits, natAbs_roundSigned]
  refine le_roundUnits Nat.one_pos representable_unitsOfOne ?_
  rw [Nat.mul_one]
  exact unitsOfOne_le_exactDifference hexact

include hzero

theorem quotientUnits_le (hb : b ≤ 2 ^ (64 : Nat)) : quotientUnits b v ≤ unitsOfOne := by
  refine roundSigned_le (wholeUnits_pos hzero) representable_unitsOfOne ?_
  rw [Int.mul_comm]
  exact Int.mul_le_mul_of_nonneg_left (differenceUnits_le hb) (Int.natCast_nonneg _)

theorem quotientUnits_anti (h : v ≤ v') : quotientUnits b v' ≤ quotientUnits b v :=
  roundSigned_mono (wholeUnits_pos hzero)
    (Int.mul_le_mul_of_nonneg_right (differenceUnits_anti h) (Int.natCast_nonneg _))

/-- The quotient is far from the numbers that are too small. -/
theorem sign_quotientUnits (hb : b ≤ 2 ^ (64 : Nat)) :
    (quotientUnits b v).sign = ((wholeUnits b : Int) - wholeUnits v).sign := by
  have hsmall : wholeUnits b ≤ unitsOfOne * unitsOfOne :=
    Nat.le_trans (wholeUnits_le hb) (Nat.mul_le_mul_right _ two_pow_64_le_unitsOfOne)
  have hone : (unitsOfOne : Int).sign = 1 :=
    Int.sign_eq_one_of_pos (Int.natCast_pos.2 unitsOfOne_pos)
  rw [quotientUnits, sign_roundSigned (wholeUnits_pos hzero), Int.sign_mul, hone, Int.mul_one,
    sign_differenceUnits]
  intro h
  rw [Int.natAbs_mul, Int.natAbs_natCast]
  refine Nat.le_trans hsmall (Nat.mul_le_mul_right _ (unitsOfOne_le_differenceUnits ?_))
  exact fun hd => h (by rw [hd, Int.zero_mul])

/-- **A percentage is a hundred at most.** -/
theorem percentUnits_le (hb : b ≤ 2 ^ (64 : Nat)) :
    percentUnits b v ≤ (100 * unitsOfOne : Nat) := by
  refine roundSigned_le unitsOfOne_pos representable_hundred ?_
  rw [Int.mul_comm]
  exact Int.mul_le_mul_of_nonneg_left (quotientUnits_le hzero hb) (Int.natCast_nonneg _)

/-- **The greater count never has the greater percentage.** -/
theorem percentUnits_anti (h : v ≤ v') : percentUnits b v' ≤ percentUnits b v :=
  roundSigned_mono unitsOfOne_pos
    (Int.mul_le_mul_of_nonneg_right (quotientUnits_anti hzero h) (Int.natCast_nonneg _))

/-- **A percentage has the sign of the difference of the rounded counts.** -/
theorem sign_percentUnits (hb : b ≤ 2 ^ (64 : Nat)) :
    (percentUnits b v).sign = ((wholeUnits b : Int) - wholeUnits v).sign := by
  have hhundred : ((100 * unitsOfOne : Nat) : Int).sign = 1 :=
    Int.sign_eq_one_of_pos (Int.natCast_pos.2 (Nat.mul_pos (by decide) unitsOfOne_pos))
  rw [percentUnits, sign_roundSigned unitsOfOne_pos, Int.sign_mul, hhundred, Int.mul_one,
    sign_quotientUnits hzero hb]
  intro h
  rw [Int.natAbs_mul, Int.natAbs_natCast, ← Nat.mul_assoc]
  refine Nat.le_mul_of_pos_left _ (Nat.mul_pos (Int.natAbs_pos.2 fun hq => h ?_) (by decide))
  rw [hq, Int.zero_mul]

end

/-! ## As numbers -/

section
variable {b : UInt64} (hb : b ≠ 0)
include hb

theorem percentBelow_anti {v v' : UInt64} (h : v ≤ v') : percentBelow b v' ≤ percentBelow b v := by
  rw [le_iff_of_value? (value?_percentBelow hb v') (value?_percentBelow hb v)]
  exact percentUnits_anti (toNat_ne_zero hb) (UInt64.le_iff_toNat_le.1 h)

theorem percentBelow_le_hundred (v : UInt64) : percentBelow b v ≤ .ofNat 100 := by
  have hhundred : (ofNat 100).value? = some ((100 * unitsOfOne : Nat) : Int) := by
    rw [ofNat_eq_finite (by decide)]
    rfl
  rw [le_iff_of_value? (value?_percentBelow hb v) hhundred]
  exact percentUnits_le (toNat_ne_zero hb) (Nat.le_of_lt b.toNat_lt)

/-- A count less itself is nothing, and neither is a part of it. -/
theorem percentBelow_self : percentBelow b b = .zero false := by
  obtain ⟨hr, hbase⟩ := ofNat_eq_wholeUnits (Nat.le_of_lt b.toNat_lt)
  have hpos := wholeUnits_pos (toNat_ne_zero hb)
  have hdiv : zero false / finite false (wholeUnits b.toNat) hr = zero false := by
    change div (zero false) (finite false (wholeUnits b.toNat) hr) = zero false
    rw [zero, div, if_neg (Nat.ne_of_gt hpos), Nat.zero_mul]
    exact ofRatio_of_small (by omega)
  have hmul : zero false * ofNat 100 = zero false := by
    rw [ofNat_eq_finite (by decide)]
    change mul (zero false) (finite false (100 * unitsOfOne) _) = zero false
    rw [zero, mul, Nat.zero_mul]
    exact ofRatio_of_small (by have := unitsOfOne_pos; omega)
  rw [percentBelow, hbase, Binary64.sub_self rfl, hdiv, hmul]

/-- The sign of a percentage is that of the difference of the rounded counts. -/
theorem percentBelow_sign (v : UInt64) :
    (zero false < percentBelow b v ↔ ofNat v.toNat < ofNat b.toNat) ∧
      (percentBelow b v < zero false ↔ ofNat b.toNat < ofNat v.toNat) ∧
      ((percentBelow b v).equal (zero false) = true ↔ ofNat v.toNat = ofNat b.toNat) := by
  have hb' := Nat.le_of_lt b.toNat_lt
  have hv' := Nat.le_of_lt v.toNat_lt
  have hzero := value?_zero false
  have hpercent := value?_percentBelow hb v
  rw [lt_iff_of_value? hzero hpercent, lt_iff_of_value? hpercent hzero,
    equal_iff_of_value? hpercent hzero, lt_iff_of_value? (value?_ofNat hv') (value?_ofNat hb'),
    lt_iff_of_value? (value?_ofNat hb') (value?_ofNat hv'), ofNat_inj_iff hv' hb']
  have hsign := sign_percentUnits (v := v.toNat) (toNat_ne_zero hb) hb'
  rw [← Int.sign_eq_one_iff_pos, ← Int.sign_eq_neg_one_iff_neg, ← Int.sign_eq_zero_iff_zero, hsign,
    Int.sign_eq_one_iff_pos, Int.sign_eq_neg_one_iff_neg, Int.sign_eq_zero_iff_zero]
  omega

end

/-- Only different counts become different numbers, and in the same order. -/
theorem lt_of_ofNat_lt {v b : UInt64} (h : ofNat v.toNat < ofNat b.toNat) : v < b := by
  have hlt := (lt_iff_of_value? (value?_ofNat (Nat.le_of_lt v.toNat_lt))
    (value?_ofNat (Nat.le_of_lt b.toNat_lt))).1 h
  rw [UInt64.lt_iff_toNat_lt]
  refine Nat.lt_of_not_le fun hle => ?_
  have hmono := wholeUnits_mono hle
  omega

/-- What a percentage says about the counts it was worked out from, that of the
    baseline first. -/
structure PercentOf (b v : UInt64) (x : Binary64) : Prop where
  finite : x.isFinite = true
  le_hundred : x ≤ .ofNat 100
  fewer : .zero false < x → v < b
  more : x < .zero false → b < v

theorem percentOf_percentBelow {b : UInt64} (hb : b ≠ 0) (v : UInt64) :
    PercentOf b v (percentBelow b v) where
  finite := isFinite_of_value? (value?_percentBelow hb v)
  le_hundred := percentBelow_le_hundred hb v
  fewer h := lt_of_ofNat_lt ((percentBelow_sign hb v).1.1 h)
  more h := lt_of_ofNat_lt ((percentBelow_sign hb v).2.1.1 h)

/-- Where there is nothing to reduce nothing is said. -/
theorem percentOf_zero (b v : UInt64) : PercentOf b v (.zero false) where
  finite := rfl
  le_hundred := by decide +kernel
  fewer := nofun
  more := nofun

theorem percentOf_conflictReduction (b v : UInt64) : PercentOf b v (conflictReduction b v) := by
  unfold conflictReduction
  split
  · exact percentOf_zero b v
  · next hb => exact percentOf_percentBelow hb v

theorem conflictReduction_anti (b : UInt64) {v v' : UInt64} (h : v ≤ v') :
    conflictReduction b v' ≤ conflictReduction b v := by
  unfold conflictReduction
  split
  · exact (le_iff_of_value? (value?_zero false) (value?_zero false)).2 (Int.le_refl 0)
  · next hb => exact percentBelow_anti hb h

theorem conflictReduction_self (b : UInt64) : conflictReduction b b = .zero false := by
  unfold conflictReduction
  split
  · rfl
  · next hb => exact percentBelow_self hb

end PolicyBench
