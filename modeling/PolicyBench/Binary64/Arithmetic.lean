/-
  PolicyBench — arithmetic of binary64 numbers.

  Every operation is the exact result, rounded once.  Invalid operations give
  NaN, division of a non-zero number by zero gives an infinity, and a sum or
  difference that cancels is the positive zero.

  * `ofNat`: the number nearest to a natural number;
  * `sub`, `mul`, `div`: difference, product and quotient;
  * `sub_self`: equal operands cancel to the positive zero.
-/
import PolicyBench.Binary64.Rounding

namespace PolicyBench

namespace Binary64

/-- The number nearest to `n`. -/
def ofNat (n : Nat) : Binary64 := ofRatio false (n * unitsOfOne) 1

/-- The units of a finite number, with their sign. -/
def signedUnits (negative : Bool) (units : Nat) : Int :=
  if negative then -units else units

/-- The difference of two numbers. -/
def sub : Binary64 → Binary64 → Binary64
  | nan, _ => nan
  | _, nan => nan
  | infinite a, infinite b => if a = b then nan else infinite a
  | infinite a, finite .. => infinite a
  | finite .., infinite b => infinite (!b)
  | finite a m _, finite b n _ =>
    let exact := signedUnits a m - signedUnits b n
    if exact = 0 then zero (a && !b) else ofRatio (decide (exact < 0)) exact.natAbs 1

/-- The product of two numbers. -/
def mul : Binary64 → Binary64 → Binary64
  | nan, _ => nan
  | _, nan => nan
  | infinite a, infinite b => infinite (a ^^ b)
  | infinite a, finite b n _ => if n = 0 then nan else infinite (a ^^ b)
  | finite a m _, infinite b => if m = 0 then nan else infinite (a ^^ b)
  | finite a m _, finite b n _ => ofRatio (a ^^ b) (m * n) (unitsOfOne)

/-- The quotient of two numbers. -/
def div : Binary64 → Binary64 → Binary64
  | nan, _ => nan
  | _, nan => nan
  | infinite _, infinite _ => nan
  | infinite a, finite b _ _ => infinite (a ^^ b)
  | finite a _ _, infinite b => zero (a ^^ b)
  | finite a m _, finite b n _ =>
    if n = 0 then (if m = 0 then nan else infinite (a ^^ b))
    else ofRatio (a ^^ b) (m * unitsOfOne) n

instance : Sub Binary64 := ⟨sub⟩
instance : Mul Binary64 := ⟨mul⟩
instance : Div Binary64 := ⟨div⟩

/-- A finite number less itself is the positive zero. -/
theorem sub_self {x : Binary64} (h : x.isFinite = true) : x - x = zero false := by
  cases x with
  | nan => cases h
  | infinite a => cases h
  | finite a m hm =>
    change sub (finite a m hm) (finite a m hm) = zero false
    simp [sub]

end Binary64

end PolicyBench
