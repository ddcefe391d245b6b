/-
  PolicyBench — binary floating-point numbers of 64 bits.

  Measured times and percentages are numbers of the binary64 format.  A finite
  number is a sign and a magnitude, and the magnitude is a whole number of
  units of 2^-1074, the smallest positive number of the format: so the exact
  value is an integer, and rounding is a matter of integers too.

  * `Representable n`: `n` units are a magnitude of the format, that is a
    significand of 53 bits times a power of two, below 2^1024;
  * `Binary64` is a number of the format, with a single NaN;
  * `ofBits`, `toBits`: the interchange encoding;
  * `finite?`, `isPositive`, `equal`: the tests the program needs.  `equal` is
    numeric: the two zeros are equal, and NaN is not equal to itself.
-/

namespace PolicyBench

-- `2 ^ n` is the core library's power, also where another one is in scope.
attribute [local instance (high)] instPowNat

/-! ## Numbers -/

/-- The number one, in units. -/
def unitsOfOne : Nat := 2 ^ (1074 : Nat)

/-- The least power of two that is too large for a finite number, in units. -/
def overflowUnits : Nat := 2 ^ (2098 : Nat)

theorem unitsOfOne_pos : 0 < unitsOfOne := by
  rw [unitsOfOne]; apply Nat.two_pow_pos

theorem two_pow_le_overflowUnits {k : Nat} (h : k ≤ 2098) : 2 ^ k ≤ overflowUnits := by
  generalize hn : 2098 = n at h
  rw [show overflowUnits = 2 ^ n by rw [← hn, overflowUnits]]
  exact Nat.pow_le_pow_right (by decide) h

/-- `n` units of 2^-1074 are the magnitude of a finite number: a significand
    below 2^53 times a power of two, less than 2^1024 in all. -/
def Representable (n : Nat) : Prop :=
  n < overflowUnits ∧ ∃ significand exponent : Nat,
    significand < 2 ^ (53 : Nat) ∧ n = significand * 2 ^ exponent

/-- A floating-point number of 64 bits. -/
inductive Binary64
  /-- no number: the result of an operation without value -/
  | nan
  /-- beyond the largest finite number, with its sign -/
  | infinite (negative : Bool)
  /-- `units` times 2^-1074, with its sign; zero has two signs -/
  | finite (negative : Bool) (units : Nat) (representable : Representable units)

namespace Binary64

instance : DecidableEq Binary64
  | nan, nan => isTrue rfl
  | nan, infinite _ => isFalse nofun
  | nan, finite .. => isFalse nofun
  | infinite _, nan => isFalse nofun
  | infinite a, infinite b => decidable_of_iff (a = b) (by simp)
  | infinite _, finite .. => isFalse nofun
  | finite .., nan => isFalse nofun
  | finite .., infinite _ => isFalse nofun
  | finite a m _, finite b n _ => decidable_of_iff (a = b ∧ m = n) (by simp)

theorem representable_zero : Representable 0 :=
  ⟨Nat.lt_of_lt_of_le Nat.one_pos (two_pow_le_overflowUnits (Nat.zero_le _)),
    0, 0, by decide, by decide⟩

/-- The zero of the given sign. -/
def zero (negative : Bool) : Binary64 := finite negative 0 representable_zero

instance : Inhabited Binary64 := ⟨zero false⟩

/-! ## Encoding in 64 bits -/

theorem representable_of_fields {m e : Nat} (hm : m < 2 ^ (53 : Nat)) (he : e ≤ 2045) :
    Representable (m * 2 ^ e) := by
  refine ⟨?_, m, e, hm, rfl⟩
  calc m * 2 ^ e < 2 ^ (53 : Nat) * 2 ^ e := Nat.mul_lt_mul_of_pos_right hm (Nat.two_pow_pos e)
    _ = 2 ^ (53 + e) := (Nat.pow_add 2 53 e).symm
    _ ≤ overflowUnits := two_pow_le_overflowUnits (by omega)

/-- The number with the given sign bit, exponent field and fraction field. -/
def ofFields (negative : Bool) (exponent fraction : Nat) : Binary64 :=
  if exponent = 0 then
    if h : fraction < 2 ^ (53 : Nat) then
      finite negative (fraction * 2 ^ (0 : Nat)) (representable_of_fields h (by decide))
    else nan
  else if h : exponent ≤ 2046 ∧ 2 ^ (52 : Nat) + fraction < 2 ^ (53 : Nat) then
    finite negative ((2 ^ (52 : Nat) + fraction) * 2 ^ (exponent - 1))
      (representable_of_fields h.2 (by omega))
  else if fraction = 0 then infinite negative
  else nan

/-- The number that `bits` encodes. -/
def ofBits (bits : UInt64) : Binary64 :=
  ofFields (decide (2 ^ (63 : Nat) ≤ bits.toNat))
    (bits.toNat / 2 ^ (52 : Nat) % 2 ^ (11 : Nat)) (bits.toNat % 2 ^ (52 : Nat))

/-- The exponent and fraction fields of a magnitude, as one number. -/
def magnitudeBits (units : Nat) : Nat :=
  if units < 2 ^ (52 : Nat) then units
  else
    let shift := units.log2 - 52
    (shift + 1) * 2 ^ (52 : Nat) + (units / 2 ^ shift - 2 ^ (52 : Nat))

/-- The encoding of a number; NaN has the quiet one without payload. -/
def toBits : Binary64 → UInt64
  | nan => .ofNat (2047 * 2 ^ (52 : Nat) + 2 ^ (51 : Nat))
  | infinite negative => .ofNat (negative.toNat * 2 ^ (63 : Nat) + 2047 * 2 ^ (52 : Nat))
  | finite negative units _ => .ofNat (negative.toNat * 2 ^ (63 : Nat) + magnitudeBits units)

/-! ## Tests -/

/-- Whether the number is neither NaN nor infinite. -/
def isFinite : Binary64 → Bool
  | finite .. => true
  | _ => false

/-- The number itself if it is finite. -/
def finite? (x : Binary64) : Option Binary64 :=
  if x.isFinite then some x else none

/-- Whether the number is a zero of either sign. -/
def isZero : Binary64 → Bool
  | finite _ units _ => units == 0
  | _ => false

/-- Whether the number is greater than zero. -/
def isPositive : Binary64 → Bool
  | nan => false
  | infinite negative => !negative
  | finite negative units _ => !negative && units != 0

/-- Numeric equality: the zeros are equal, and NaN is equal to nothing. -/
def equal : Binary64 → Binary64 → Bool
  | infinite a, infinite b => a == b
  | finite a m _, finite b n _ => m == n && (a == b || m == 0)
  | _, _ => false

@[simp] theorem finite?_eq_some_iff {x y : Binary64} :
    x.finite? = some y ↔ x.isFinite = true ∧ x = y := by
  simp [finite?]

/-- A finite number is equal to itself. -/
theorem equal_self_of_isFinite {x : Binary64} (h : x.isFinite = true) : x.equal x = true := by
  cases x <;> simp_all [isFinite, equal]

end Binary64

end PolicyBench
