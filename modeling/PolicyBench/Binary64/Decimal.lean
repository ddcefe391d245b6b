/-
  PolicyBench — decimal numbers and their nearest binary64 number.

  A decimal number is a significand times a power of ten.  Reading one means
  taking the nearest number of the format, whatever the number of digits.

  * `Decimal` is a decimal number, `Decimal.round` the number nearest to it;
  * `round_eq_ofRatio`: the short cuts for enormous exponents change nothing,
    so `round` depends on the exact value alone;
  * `decimal?` reads a sign, digits with an optional point, and an optional
    exponent, `ofText?` the number nearest to that.
-/
import PolicyBench.Binary64.Rounding

namespace PolicyBench

-- `2 ^ n` is the core library's power, also where another one is in scope.
attribute [local instance (high)] instPowNat

/-- The number `significand * 10 ^ exponent`. -/
structure Decimal where
  significand : Nat
  exponent : Int
  deriving DecidableEq, Repr

namespace Decimal

/-- The numerator of the value in units. -/
def numerator (d : Decimal) : Nat := d.significand * 10 ^ d.exponent.toNat * unitsOfOne

/-- The denominator of the value in units. -/
def denominator (d : Decimal) : Nat := 10 ^ (-d.exponent).toNat

/-- The number of digits of `n`. -/
def digitCount (n : Nat) : Nat := (Nat.toDigits 10 n).length

/-- The value is less than ten to this power, and no less than a tenth of that
    unless it is zero. -/
def order (d : Decimal) : Int := digitCount d.significand + d.exponent

/-- The number nearest to the decimal number, with the given sign.  Values far
    outside the range of the format are not worked out. -/
def round (negative : Bool) (d : Decimal) : Binary64 :=
  if d.significand = 0 ∨ d.order < -330 then .zero negative
  else if 320 < d.order then .infinite negative
  else .ofRatio negative d.numerator d.denominator

theorem lt_ten_pow_digitCount (n : Nat) : n < 10 ^ digitCount n :=
  (Nat.length_toDigits_le_iff (by decide) Nat.length_toDigits_pos).1 (Nat.le_refl _)

theorem ten_pow_le_of_lt_digitCount {n k : Nat} (hk : k < digitCount n) (hn : n ≠ 0) :
    10 ^ k ≤ n := by
  rcases Nat.eq_zero_or_pos k with rfl | hpos
  · exact Nat.pos_of_ne_zero hn
  · refine Nat.le_of_not_lt fun h => ?_
    have := (Nat.length_toDigits_le_iff (n := n) (k := k) (b := 10) (by decide) hpos).2 h
    unfold digitCount at hk
    omega

/-- Ten digits are worth 33 bits. -/
theorem two_pow_le_ten_pow {a b : Nat} (n : Nat) (ha : a ≤ 33 * n) (hb : 10 * n ≤ b) :
    2 ^ a ≤ 10 ^ b :=
  calc 2 ^ a ≤ 2 ^ (33 * n) := Nat.pow_le_pow_right (by decide) ha
    _ = (2 ^ (33 : Nat)) ^ n := Nat.pow_mul ..
    _ ≤ (10 ^ (10 : Nat)) ^ n := Nat.pow_le_pow_left (by decide) n
    _ = 10 ^ (10 * n) := (Nat.pow_mul ..).symm
    _ ≤ 10 ^ b := Nat.pow_le_pow_right (by decide) hb

theorem two_mul_unitsOfOne_le {n : Nat} (h : 330 ≤ n) : 2 * unitsOfOne ≤ 10 ^ n := by
  unfold unitsOfOne
  generalize hk : 1074 = k
  rw [← Nat.pow_succ']
  exact two_pow_le_ten_pow 33 (by omega) (by omega)

theorem overflowUnits_le_mul {n : Nat} (h : 320 ≤ n) : overflowUnits ≤ 10 ^ n * unitsOfOne := by
  unfold overflowUnits unitsOfOne
  generalize hk : 1074 = k
  obtain ⟨j, hj⟩ : ∃ j, 2098 = j + k := ⟨1024, by omega⟩
  rw [hj, Nat.pow_add]
  exact Nat.mul_le_mul_right _ (two_pow_le_ten_pow 32 (by omega) (by omega))

/-- A value below 10^-330 is below half a unit. -/
theorem two_mul_numerator_lt {d : Decimal} (h : d.order < -330) :
    2 * d.numerator < d.denominator := by
  obtain ⟨s, e⟩ := d
  simp only [order] at h
  have he : e.toNat = 0 := by omega
  obtain ⟨k, hk⟩ : ∃ k, (-e).toNat = digitCount s + k := ⟨(-e).toNat - digitCount s, by omega⟩
  simp only [numerator, denominator, he, hk, Nat.pow_zero, Nat.mul_one]
  calc 2 * (s * unitsOfOne) = s * (2 * unitsOfOne) := by simp only [Nat.mul_left_comm]
    _ < 10 ^ digitCount s * (2 * unitsOfOne) :=
        Nat.mul_lt_mul_of_pos_right (lt_ten_pow_digitCount s)
          (Nat.mul_pos (by decide) unitsOfOne_pos)
    _ ≤ 10 ^ digitCount s * 10 ^ k := Nat.mul_le_mul_left _ (two_mul_unitsOfOne_le (by omega))
    _ = 10 ^ (digitCount s + k) := (Nat.pow_add ..).symm

/-- A value of 10^320 or more is too large for a finite number. -/
theorem overflowUnits_le {d : Decimal} (hs : d.significand ≠ 0) (h : 320 < d.order) :
    overflowUnits ≤ d.numerator / d.denominator := by
  obtain ⟨s, e⟩ := d
  simp only [order] at h
  have hpos : 0 < digitCount s := Nat.length_toDigits_pos
  have hle : 10 ^ (digitCount s - 1) ≤ s := ten_pow_le_of_lt_digitCount (by omega) hs
  obtain ⟨k, hk, hk'⟩ : ∃ k, 320 ≤ k ∧ k + (-e).toNat = digitCount s - 1 + e.toNat :=
    ⟨digitCount s - 1 + e.toNat - (-e).toNat, by omega⟩
  simp only [numerator, denominator]
  rw [Nat.le_div_iff_mul_le (Nat.pow_pos (by decide))]
  calc overflowUnits * 10 ^ (-e).toNat ≤ 10 ^ k * unitsOfOne * 10 ^ (-e).toNat :=
        Nat.mul_le_mul_right _ (overflowUnits_le_mul hk)
    _ = 10 ^ (k + (-e).toNat) * unitsOfOne := by
        rw [Nat.pow_add]; simp only [Nat.mul_assoc, Nat.mul_comm unitsOfOne]
    _ = 10 ^ (digitCount s - 1) * 10 ^ e.toNat * unitsOfOne := by rw [hk', Nat.pow_add]
    _ ≤ s * 10 ^ e.toNat * unitsOfOne :=
        Nat.mul_le_mul_right _ (Nat.mul_le_mul_right _ hle)

/-- The nearest number depends on the exact value alone. -/
theorem round_eq_ofRatio (negative : Bool) (d : Decimal) :
    d.round negative = .ofRatio negative d.numerator d.denominator := by
  unfold round
  split
  · next h =>
    refine (Binary64.ofRatio_of_small ?_).symm
    rcases h with h | h
    · have : 0 < d.denominator := Nat.pow_pos (by decide)
      simpa [numerator, h]
    · exact two_mul_numerator_lt h
  · next h =>
    split
    · next h' =>
      exact (Binary64.ofRatio_of_large (overflowUnits_le (fun hs => h (.inl hs)) h')).symm
    · rfl

end Decimal

namespace Binary64

/-! ## Reading text -/

/-- A leading sign, and what follows it. -/
def takeSign : List Char → Bool × List Char
  | '-' :: cs => (true, cs)
  | '+' :: cs => (false, cs)
  | cs => (false, cs)

/-- The exponent at the end of a number; nothing there counts as zero. -/
def readExponent : List Char → Option Int
  | [] => some 0
  | c :: cs =>
    if c = 'e' ∨ c = 'E' then
      let (negative, digits) := takeSign cs
      if digits ≠ [] ∧ digits.all Char.isDigit then
        let n : Int := Nat.ofDigitChars 10 digits 0
        some (if negative then -n else n)
      else none
    else none

/-- The fraction digits after the whole part, and what follows them. -/
def takeFraction : List Char → List Char × List Char
  | '.' :: cs => (cs.takeWhile Char.isDigit, cs.dropWhile Char.isDigit)
  | cs => ([], cs)

/-- The decimal number that a text stands for, and whether it has a minus sign; it
    needs a digit before or after its point. -/
def decimal? (cs : List Char) : Option (Bool × Decimal) :=
  let (negative, body) := takeSign cs
  let whole := body.takeWhile Char.isDigit
  let (fraction, tail) := takeFraction (body.dropWhile Char.isDigit)
  if whole = [] ∧ fraction = [] then none
  else (readExponent tail).map fun e =>
    (negative, ⟨Nat.ofDigitChars 10 (whole ++ fraction) 0, e - fraction.length⟩)

/-- The number nearest to the decimal text `cs`. -/
def ofText? (cs : List Char) : Option Binary64 := (decimal? cs).map fun d => d.2.round d.1

end Binary64

end PolicyBench
