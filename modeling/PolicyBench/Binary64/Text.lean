/-
  PolicyBench — texts of binary64 numbers.

  A number is written either in its shortest form, positional or with an
  exponent, or with a fixed number of decimal places.

  * `Style` holds the choices for the shortest form: which exponents are written
    positionally, whether whole numbers keep a point, how exponents look, and
    which of two equally short forms is taken;
  * `write` gives the text of a number in a style, `writeFixed` with a fixed
    number of places, rounded from the exact value with ties to even.
-/
import PolicyBench.Binary64.Shortest

namespace PolicyBench

-- `2 ^ n` is the core library's power, also where another one is in scope.
attribute [local instance (high)] instPowNat

namespace Binary64

/-- The choices for writing a number in its shortest form. -/
structure Style where
  /-- which of two equally near decimals is taken -/
  tie : Tie
  /-- the least and the greatest exponent of a leading digit for which the
      number is written without an exponent; `none` if it always is -/
  positional : Option (Int × Int)
  /-- whether a whole number written positionally ends in `.0` -/
  pointZero : Bool
  /-- whether an exponent that is not negative has a plus sign -/
  plus : Bool

/-- Digits with the point at its place. -/
def writePositional (pointZero : Bool) (digits : List Char) (exponent : Int) : List Char :=
  let point : Int := digits.length + exponent
  if 0 ≤ exponent then
    digits ++ List.replicate exponent.toNat '0' ++ (if pointZero then ['.', '0'] else [])
  else if 0 < point then digits.take point.toNat ++ '.' :: digits.drop point.toNat
  else '0' :: '.' :: List.replicate (-point).toNat '0' ++ digits

/-- Digits with the point after the first one, and an exponent. -/
def writeExponent (plus : Bool) (digits : List Char) (exponent : Int) : List Char :=
  let lead : Int := digits.length + exponent - 1
  let sign := if lead < 0 then ['-'] else if plus then ['+'] else []
  let mantissa :=
    match digits with
    | [] => []
    | [d] => [d]
    | d :: ds => d :: '.' :: ds
  mantissa ++ 'e' :: sign ++ Nat.toDigits 10 lead.natAbs

/-- A decimal number in the given style. -/
def writeDecimal (style : Style) (d : Decimal) : List Char :=
  let digits := Nat.toDigits 10 d.significand
  let lead : Int := digits.length + d.exponent - 1
  let positional :=
    match style.positional with
    | none => true
    | some (low, high) => d.significand = 0 ∨ (low ≤ lead ∧ lead ≤ high)
  if positional then writePositional style.pointZero digits d.exponent
  else writeExponent style.plus digits d.exponent

/-- A sign in front of the text of a magnitude. -/
def withSign (negative : Bool) (text : List Char) : String :=
  String.ofList (if negative then '-' :: text else text)

/-- The shortest text of a number in the given style. -/
def write (style : Style) : Binary64 → String
  | nan => "NaN"
  | infinite negative => withSign negative ['i', 'n', 'f']
  | finite negative units _ => withSign negative (writeDecimal style (shortest style.tie units))

/-- The digits of `n` with the last `places` of them after the point. -/
def writePlaces (places n : Nat) : List Char :=
  let fraction := Nat.toDigits 10 (n % 10 ^ places)
  Nat.toDigits 10 (n / 10 ^ places) ++
    '.' :: List.replicate (places - fraction.length) '0' ++ fraction

/-- The text of a number with `places` decimal places (at least one), the exact
    value rounded to the nearest, ties to even. -/
def writeFixed (places : Nat) : Binary64 → String
  | nan => "NaN"
  | infinite negative => withSign negative ['i', 'n', 'f']
  | finite negative units _ =>
    withSign negative (writePlaces places (roundHalfEven (units * 10 ^ places) unitsOfOne))

/-- Always positional, and a whole number shows no point. -/
def Style.plain : Style := ⟨.up, none, false, false⟩

/-- Positional from 10^-4 to below 10^16 and then always with a point, otherwise
    with an exponent. -/
def Style.marked : Style := ⟨.up, some (-4, 15), true, false⟩

end Binary64

end PolicyBench
