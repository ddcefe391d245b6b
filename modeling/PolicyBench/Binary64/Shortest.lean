/-
  PolicyBench — shortest decimal form of a binary64 number.

  A finite number is written with as few significant digits as determine it:
  the shortest decimal that reads back as the same number, and of several the
  one nearest to it.

  * `leadingExponent` finds the decade of a magnitude;
  * `gridCandidate?` looks for a decimal that reads back among the two grid
    points around the magnitude, for one spacing of powers of ten;
  * `shortest` takes the coarsest grid with such a decimal.  Should none of the
    first seventeen have one, it is the exact value, which always reads back;
  * `Decimal.Denotes` says that a decimal reads back as a magnitude, and
    `gridCandidate?_denotes` that only such decimals are chosen.
-/
import PolicyBench.Binary64.Decimal

namespace PolicyBench

-- `2 ^ n` is the core library's power, also where another one is in scope.
attribute [local instance (high)] instPowNat

/-- Which of two equally near decimals is taken. -/
inductive Tie where
  /-- the greater one -/
  | up
  /-- the one whose last digit is even -/
  | even
  deriving DecidableEq, Repr

/-- Whether the upper of two neighbours is preferred, `rest / den` above the lower
    one, whose significand is `below`: if it is nearer, or as `tie` says. -/
def Tie.prefersUpper (tie : Tie) (below rest den : Nat) : Bool :=
  if 2 * rest = den then tie == .up || below % 2 == 1 else decide (den < 2 * rest)

namespace Decimal

/-- The significand without trailing zeros, the value unchanged. -/
def trim (d : Decimal) : Decimal :=
  if h : d.significand ≠ 0 ∧ d.significand % 10 = 0 then
    trim ⟨d.significand / 10, d.exponent + 1⟩
  else d
termination_by d.significand
decreasing_by omega

/-- The decimal reads back as the finite magnitude of `units`. -/
def Denotes (d : Decimal) (units : Nat) : Prop :=
  match d.round false with
  | .finite _ n _ => n = units
  | _ => False

instance (d : Decimal) (units : Nat) : Decidable (d.Denotes units) := by
  unfold Denotes; split <;> infer_instance

end Decimal

namespace Binary64

/-- The power of ten of the leading digit of a positive magnitude. -/
def leadingExponent (units : Nat) : Int :=
  (Decimal.digitCount (units * 10 ^ (324 : Nat) / unitsOfOne) : Int) - 325

/-- The decimal among the two neighbours of the magnitude on the grid of
    `10 ^ e` that reads back, the nearer one if both do. -/
def gridCandidate? (tie : Tie) (units : Nat) (e : Int) : Option Decimal :=
  let num := units * 10 ^ (-e).toNat
  let den := unitsOfOne * 10 ^ e.toNat
  let below := num / den
  let rest := num % den
  let lower := Decimal.trim ⟨below, e⟩
  let upper := Decimal.trim ⟨below + 1, e⟩
  if upper.Denotes units ∧ (tie.prefersUpper below rest den ∨ ¬ lower.Denotes units) then
    some upper
  else if lower.Denotes units then some lower
  else none

/-- The shortest decimal that reads back as the magnitude, nearest to it. -/
def shortest (tie : Tie) (units : Nat) : Decimal :=
  if units = 0 then ⟨0, 0⟩
  else
    let lead := leadingExponent units
    ((List.range 17).findSome? fun (i : Nat) => gridCandidate? tie units (lead - i)).getD
      (Decimal.trim ⟨units * 5 ^ (1074 : Nat), -1074⟩)

theorem gridCandidate?_denotes {tie : Tie} {units : Nat} {e : Int} {d : Decimal}
    (h : gridCandidate? tie units e = some d) : d.Denotes units := by
  unfold gridCandidate? at h
  dsimp only at h
  split at h
  · next hu => cases h; exact hu.1
  · split at h
    · next hl => cases h; exact hl
    · cases h

end Binary64

end PolicyBench
