/-
  PolicyBench — values with a sign, and their order.

  The exact value of a finite number is a whole number of units with a sign.  Numbers
  are compared by these values, and an operation gives the rounded value of the exact
  result.  So what rounding keeps, the operations keep: the order, bounds that are
  numbers of the format, and the sign of all that is not too small.

  * `value?`: the exact value of a finite number; `<` and `≤` are the numeric order,
    in which the zeros are equal and NaN is not comparable;
  * `roundSigned`: the value that a quotient with a sign is rounded to;
  * `roundSigned_mono`, `roundSigned_le`, `sign_roundSigned`: what rounding keeps;
  * `value?_sub`, `value?_div`, `value?_mul`: the operations by their values.
-/
import PolicyBench.Proofs.Binary64.Order

namespace PolicyBench.Binary64

/-! ## Values and their order -/

/-- The exact value of a finite number, in units with its sign. -/
def value? : Binary64 → Option Int
  | finite negative units _ => some (signedUnits negative units)
  | _ => none

/-- Numeric order: whether `x` is less than `y`.  NaN is not comparable. -/
def less : Binary64 → Binary64 → Bool
  | infinite a, infinite b => a && !b
  | infinite a, finite .. => a
  | finite .., infinite b => !b
  | finite a m _, finite b n _ => decide (signedUnits a m < signedUnits b n)
  | _, _ => false

instance : LT Binary64 := ⟨fun x y => x.less y = true⟩
instance : LE Binary64 := ⟨fun x y => (x.less y || x.equal y) = true⟩

instance (x y : Binary64) : Decidable (x < y) := inferInstanceAs (Decidable (x.less y = true))
instance (x y : Binary64) : Decidable (x ≤ y) :=
  inferInstanceAs (Decidable ((x.less y || x.equal y) = true))

theorem signedUnits_inj {a b : Bool} {m n : Nat} :
    signedUnits a m = signedUnits b n ↔ m = n ∧ (a = b ∨ m = 0) := by
  cases a <;> cases b <;> simp [signedUnits] <;> omega

section
variable {x y : Binary64} {p q : Int}

theorem isFinite_of_value? (hx : x.value? = some p) : x.isFinite = true := by
  cases x with
  | finite => rfl
  | _ => cases hx

theorem exists_eq_finite_of_value? (hx : x.value? = some p) :
    ∃ negative units h, x = finite negative units h ∧ signedUnits negative units = p := by
  cases x with
  | finite negative units h => exact ⟨negative, units, h, rfl, Option.some.inj hx⟩
  | _ => cases hx

variable (hx : x.value? = some p) (hy : y.value? = some q)
include hx hy

theorem lt_iff_of_value? : x < y ↔ p < q := by
  obtain ⟨a, m, _, rfl, rfl⟩ := exists_eq_finite_of_value? hx
  obtain ⟨b, n, _, rfl, rfl⟩ := exists_eq_finite_of_value? hy
  exact decide_eq_true_iff

theorem equal_iff_of_value? : x.equal y = true ↔ p = q := by
  obtain ⟨a, m, _, rfl, rfl⟩ := exists_eq_finite_of_value? hx
  obtain ⟨b, n, _, rfl, rfl⟩ := exists_eq_finite_of_value? hy
  rw [signedUnits_inj]
  simp [equal]

theorem le_iff_of_value? : x ≤ y ↔ p ≤ q := by
  have hle : x ≤ y ↔ x < y ∨ x.equal y = true := Bool.or_eq_true_iff
  rw [hle, lt_iff_of_value? hx hy, equal_iff_of_value? hx hy]
  omega

end

theorem value?_zero (negative : Bool) : (zero negative).value? = some 0 := by
  cases negative <;> rfl

/-! ## Rounding with a sign -/

/-- `num / den` units, rounded to a value of the format. -/
def roundSigned (num : Int) (den : Nat) : Int :=
  signedUnits (decide (num < 0)) (roundUnits num.natAbs den)

theorem roundUnits_zero {den : Nat} (hd : 0 < den) : roundUnits 0 den = 0 :=
  roundUnits_of_small (by omega)

theorem natAbs_signedUnits (negative : Bool) (n : Nat) : (signedUnits negative n).natAbs = n := by
  cases negative <;> simp [signedUnits]

theorem signedUnits_mul (negative : Bool) (m k : Nat) :
    signedUnits negative m * k = signedUnits negative (m * k) := by
  cases negative with
  | false => exact (Int.natCast_mul m k).symm
  | true => exact (Int.neg_mul m k).trans (congrArg Int.neg (Int.natCast_mul m k).symm)

theorem natAbs_roundSigned (num : Int) (den : Nat) :
    (roundSigned num den).natAbs = roundUnits num.natAbs den :=
  natAbs_signedUnits ..

/-- The sign may be taken from anywhere if there is nothing to round. -/
theorem roundSigned_signedUnits (negative : Bool) (n : Nat) {den : Nat} (hd : 0 < den) :
    roundSigned (signedUnits negative n) den = signedUnits negative (roundUnits n den) := by
  rw [roundSigned, natAbs_signedUnits]
  rcases Nat.eq_zero_or_pos n with rfl | hpos
  · rw [roundUnits_zero hd, signedUnits_inj]
    exact ⟨rfl, .inr rfl⟩
  · congr 1
    cases negative <;> simp [signedUnits]; omega

theorem roundSigned_of_nonneg {num : Int} (h : 0 ≤ num) (den : Nat) :
    roundSigned num den = roundUnits num.natAbs den := by
  rw [roundSigned, decide_eq_false (Int.not_lt.2 h)]
  rfl

theorem roundSigned_of_nonpos {num : Int} (h : num ≤ 0) {den : Nat} (hd : 0 < den) :
    roundSigned num den = -(roundUnits num.natAbs den : Int) := by
  have hnum : num = signedUnits true num.natAbs := by simp only [signedUnits, if_true]; omega
  rw [hnum, roundSigned_signedUnits true _ hd, natAbs_signedUnits]
  rfl

/-- **The greater value is rounded to the greater value.** -/
theorem roundSigned_mono {den : Nat} (hd : 0 < den) {num num' : Int} (h : num ≤ num') :
    roundSigned num den ≤ roundSigned num' den := by
  rcases Int.le_total 0 num with hnum | hnum
  · have hmono : roundUnits num.natAbs den ≤ roundUnits num'.natAbs den :=
      roundUnits_mono hd hd (Nat.mul_le_mul_right den (by omega))
    rw [roundSigned_of_nonneg hnum, roundSigned_of_nonneg (by omega)]
    exact Int.ofNat_le.2 hmono
  · rw [roundSigned_of_nonpos hnum hd]
    rcases Int.le_total 0 num' with hnum' | hnum'
    · rw [roundSigned_of_nonneg hnum']
      omega
    · have hmono : roundUnits num'.natAbs den ≤ roundUnits num.natAbs den :=
        roundUnits_mono hd hd (Nat.mul_le_mul_right den (by omega))
      rw [roundSigned_of_nonpos hnum' hd]
      omega

/-- A bound of the format bounds what is rounded. -/
theorem roundSigned_le {den n : Nat} (hd : 0 < den) (hn : Representable n) {num : Int}
    (h : num ≤ n * den) : roundSigned num den ≤ n := by
  have hexact : roundSigned (n * den : Nat) den = n := by
    rw [roundSigned_of_nonneg (Int.natCast_nonneg _), Int.natAbs_natCast,
      roundUnits_representable hn hd]
  rw [← hexact]
  exact roundSigned_mono hd (by rwa [Int.natCast_mul])

theorem representable_one : Representable 1 :=
  representable_of_fields (m := 1) (e := 0) (by decide) (by decide)

/-- What is not below one unit keeps its sign. -/
theorem sign_roundSigned {num : Int} {den : Nat} (hd : 0 < den)
    (h : num ≠ 0 → den ≤ num.natAbs) : (roundSigned num den).sign = num.sign := by
  have hpos (hnum : num ≠ 0) : 0 < roundUnits num.natAbs den :=
    le_roundUnits hd representable_one (by rw [Nat.one_mul]; exact h hnum)
  rcases Int.lt_trichotomy num 0 with hneg | rfl | hnum
  · rw [roundSigned_of_nonpos (Int.le_of_lt hneg) hd, Int.sign_eq_neg_one_of_neg hneg]
    exact Int.sign_eq_neg_one_of_neg (by have := hpos (by omega); omega)
  · rw [roundSigned_of_nonneg (Int.le_refl 0), Int.natAbs_zero, roundUnits_zero hd]
    rfl
  · rw [roundSigned_of_nonneg (Int.le_of_lt hnum), Int.sign_eq_one_of_pos hnum]
    exact Int.sign_eq_one_of_pos (by have := hpos (by omega); omega)

/-! ## Operations -/

theorem value?_ofRatio (negative : Bool) {num den n : Nat} (hd : 0 < den) (hn : Representable n)
    (h : num ≤ n * den) :
    (ofRatio negative num den).value? = some (signedUnits negative (roundUnits num den)) := by
  have hlt := Nat.lt_of_le_of_lt (roundUnits_le hd hn h) hn.1
  rw [ofRatio, dif_pos hlt]
  rfl

section
variable {x : Binary64} {p : Int} (hx : x.value? = some p)
include hx

/-- A difference that is bounded by a number of the format is the rounded one. -/
theorem value?_sub {y : Binary64} {q : Int} (hy : y.value? = some q) {n : Nat}
    (hn : Representable n) (h : (p - q).natAbs ≤ n) :
    (x - y).value? = some (roundSigned (p - q) 1) := by
  obtain ⟨a, m, _, rfl, rfl⟩ := exists_eq_finite_of_value? hx
  obtain ⟨b, k, _, rfl, rfl⟩ := exists_eq_finite_of_value? hy
  change (sub (finite a m _) (finite b k _)).value? = _
  rw [sub]
  split
  · next hzero => rw [hzero, value?_zero]; rfl
  · rw [value?_ofRatio _ Nat.one_pos hn (by rwa [Nat.mul_one])]
    rfl

variable {k n : Nat} (hk : Representable k) (hn : Representable n)
include hn

/-- A quotient that is bounded by a number of the format is the rounded one. -/
theorem value?_div (hpos : 0 < k) (h : p.natAbs * unitsOfOne ≤ n * k) :
    (x / finite false k hk).value? = some (roundSigned (p * unitsOfOne) k) := by
  obtain ⟨a, m, hm, rfl, rfl⟩ := exists_eq_finite_of_value? hx
  rw [natAbs_signedUnits] at h
  change (div (finite a m hm) (finite false k hk)).value? = _
  rw [div, if_neg (Nat.ne_of_gt hpos), Bool.xor_false, value?_ofRatio _ hpos hn h, signedUnits_mul,
    roundSigned_signedUnits _ _ hpos]

/-- A product that is bounded by a number of the format is the rounded one. -/
theorem value?_mul (h : p.natAbs * k ≤ n * unitsOfOne) :
    (x * finite false k hk).value? = some (roundSigned (p * k) unitsOfOne) := by
  obtain ⟨a, m, hm, rfl, rfl⟩ := exists_eq_finite_of_value? hx
  rw [natAbs_signedUnits] at h
  change (mul (finite a m hm) (finite false k hk)).value? = _
  rw [mul, Bool.xor_false, value?_ofRatio _ unitsOfOne_pos hn h, signedUnits_mul,
    roundSigned_signedUnits _ _ unitsOfOne_pos]

end

end PolicyBench.Binary64
