/-
  PolicyBench — JSON numbers.

  A JSON number has an optional minus sign, digits without superfluous zeros, an
  optional fraction and an optional exponent.  Its value is worked out in two
  steps: as many digits as fit into 64 bits give a significand, and that is
  scaled by a power of ten in floating-point arithmetic.  The result can differ
  from the nearest number in its last bits.

  * `NumberText` holds the parts, with the fault that ended them, if one did;
    `readNumber` finds them;
  * `NumberText.value` is the value: a natural number of 64 bits, or any other
    number (`Number`); a number too large for the format has none;
  * `length_rest_readWhole_le`: finding the parts only consumes;
  * `floatStyle`, `writeFloat`: how a number is written.
-/
import PolicyBench.Binary64.Arithmetic
import PolicyBench.Binary64.Text
import PolicyBench.Json.Quoted

namespace PolicyBench.Json

-- `2 ^ n` is the core library's power, also where another one is in scope.
attribute [local instance (high)] instPowNat

open Text (Bytes)

/-! ## Parts -/

/-- The parts of a number; digits by their values. -/
structure NumberText where
  negative : Bool
  whole : List Nat
  fraction : List Nat
  /-- whether there is a fraction -/
  pointed : Bool
  /-- the sign and the digits of the exponent -/
  exponent : Option (Bool × List Nat)
  /-- what broke it off, if anything did -/
  fault : Option Fault
  deriving DecidableEq, Repr

/-- Whether a byte is a digit. -/
def isDigit (b : UInt8) : Bool := decide (0x30 ≤ b) && decide (b ≤ 0x39)

/-- The values of the digits at the front, and what follows them. -/
def takeDigits (bs : Bytes) : List Nat × Bytes :=
  ((bs.takeWhile isDigit).map fun b => b.toNat - 0x30, bs.dropWhile isDigit)

/-- What is wrong if a digit must come: the text ends, or something else comes. -/
def missingDigit : Bytes → Fault
  | [] => .endOfText
  | _ :: _ => .malformed

/-- The exponent, after its letter. -/
def readExponent (n : NumberText) (bs : Bytes) : NumberText × Bytes :=
  let (negative, bs) :=
    match bs with
    | 0x2D :: rest => (true, rest)
    | 0x2B :: rest => (false, rest)
    | bs => (false, bs)
  match takeDigits bs with
  | ([], rest) => ({ n with fault := some (missingDigit rest) }, rest)
  | (digits, rest) => ({ n with exponent := some (negative, digits) }, rest)

/-- The exponent, if there is one. -/
def readTail (n : NumberText) : Bytes → NumberText × Bytes
  | 0x65 :: rest => readExponent n rest
  | 0x45 :: rest => readExponent n rest
  | bs => (n, bs)

/-- The fraction, if there is one, and what follows. -/
def readFraction (n : NumberText) : Bytes → NumberText × Bytes
  | 0x2E :: bs =>
    match takeDigits bs with
    | ([], rest) => ({ n with fault := some (missingDigit rest) }, rest)
    | (digits, rest) => readTail { n with fraction := digits, pointed := true } rest
  | bs => readTail n bs

/-- The digits of the whole part and what follows: a zero stands alone. -/
def readWhole (negative : Bool) (bs : Bytes) : NumberText × Bytes :=
  let n : NumberText := ⟨negative, [], [], false, none, none⟩
  match takeDigits bs with
  | ([], rest) => ({ n with fault := some (missingDigit rest) }, rest)
  | (0 :: _ :: _, rest) => ({ n with fault := some .malformed }, rest)
  | (digits, rest) => readFraction { n with whole := digits } rest

/-- The parts of the number at the front, and what follows it. -/
def readNumber : Bytes → NumberText × Bytes
  | 0x2D :: bs => readWhole true bs
  | bs => readWhole false bs

theorem length_takeDigits_le (bs : Bytes) : (takeDigits bs).2.length ≤ bs.length :=
  (List.dropWhile_sublist _).length_le

theorem length_rest_readExponent_le (n : NumberText) (bs : Bytes) :
    (readExponent n bs).2.length ≤ bs.length := by
  have h (bs : Bytes) := length_takeDigits_le bs
  unfold readExponent
  split
  split <;> grind

theorem length_rest_readTail_le (n : NumberText) (bs : Bytes) :
    (readTail n bs).2.length ≤ bs.length := by
  unfold readTail
  split
  · exact Nat.le_succ_of_le (length_rest_readExponent_le n _)
  · exact Nat.le_succ_of_le (length_rest_readExponent_le n _)
  · exact Nat.le_refl _

theorem length_rest_readFraction_le (n : NumberText) (bs : Bytes) :
    (readFraction n bs).2.length ≤ bs.length := by
  unfold readFraction
  split
  · next bs =>
    have h := length_takeDigits_le bs
    have ht := fun (n : NumberText) (bs : Bytes) => length_rest_readTail_le n bs
    split <;> grind
  · exact length_rest_readTail_le n bs

theorem length_rest_readWhole_le (negative : Bool) (bs : Bytes) :
    (readWhole negative bs).2.length ≤ bs.length := by
  unfold readWhole
  have h := length_takeDigits_le bs
  have hf := fun (n : NumberText) (bs : Bytes) => length_rest_readFraction_le n bs
  split <;> grind

/-! ## Value -/

/-- The value of a number. -/
inductive Number where
  /-- without sign, fraction and exponent, and below 2^64 -/
  | natural (n : UInt64)
  | other (x : Binary64)
  deriving DecidableEq

/-- The number in floating-point. -/
def Number.toBinary64 : Number → Binary64
  | natural n => .ofNat n.toNat
  | other x => x

/-- Appends digits to `n` as long as the number stays below 2^64; the result, and
    the digits that are left. -/
def fit (n : Nat) : List Nat → Nat × List Nat
  | [] => (n, [])
  | d :: ds => if n * 10 + d < 2 ^ (64 : Nat) then fit (n * 10 + d) ds else (n, d :: ds)

/-- A power of ten of the format. -/
def powerOfTen (k : Nat) : Binary64 := Decimal.round false ⟨1, k⟩

/-- Scales a number by a power of ten.  Powers that the format lacks are taken in
    steps; what becomes too large has no value. -/
def scale (x : Binary64) (exponent : Int) : Except Fault Binary64 :=
  if exponent.natAbs ≤ 308 then
    if 0 ≤ exponent then
      let scaled := x * powerOfTen exponent.natAbs
      if scaled.isFinite then .ok scaled else .error .malformed
    else .ok (x / powerOfTen exponent.natAbs)
  else if x.isZero then .ok x
  else if 0 ≤ exponent then .error .malformed
  else scale (x / powerOfTen 308) (exponent + 308)
termination_by exponent.natAbs
decreasing_by omega

/-- The number with the given sign. -/
def withSign (negative : Bool) (x : Binary64) : Binary64 :=
  if negative then
    match x with
    | .nan => .nan
    | .infinite s => .infinite (!s)
    | .finite s n h => .finite (!s) n h
  else x

/-- The exponents up to this one are taken as they are. -/
def greatestExponent : Nat := 2147483647

/-- The value of digits. -/
def digitsValue (digits : List Nat) : Nat := digits.foldl (fun n d => n * 10 + d) 0

/-- The value of a number that is not a natural one. -/
def NumberText.float (n : NumberText) (significand : Nat) (start : Int) : Except Fault Binary64 :=
  (withSign n.negative ·) <$>
    match n.exponent with
    | none => scale (.ofNat significand) start
    | some (negative, digits) =>
      let e := digitsValue digits
      if greatestExponent < e then
        if significand = 0 ∨ negative then .ok (.zero false) else .error .malformed
      else scale (.ofNat significand) (if negative then start - e else start + e)

/-- The value of a number; what broke it off comes first. -/
def NumberText.value (n : NumberText) : Except Fault Number :=
  match n.fault with
  | some f => .error f
  | none =>
    let (whole, beyond) := fit 0 n.whole
    if n.pointed = false ∧ n.exponent = none ∧ beyond = [] then
      if n.negative then .ok (.other (withSign true (.ofNat whole)))
      else .ok (.natural (.ofNat whole))
    else
      let (significand, dropped) := fit whole n.fraction
      .other <$> n.float significand (beyond.length + dropped.length - n.fraction.length)

/-! ## Writing -/

/-- Positional from 10^-5 to below 10^16, whole numbers with a point, otherwise
    with a signed exponent. -/
def floatStyle : Binary64.Style := ⟨.even, some (-5, 15), true, true⟩

/-- A number as JSON; one that is not finite is `null`. -/
def writeFloat (x : Binary64) : String :=
  if x.isFinite then x.write floatStyle else "null"

theorem writeFloat_of_not_finite {x : Binary64} (h : x.isFinite = false) :
    writeFloat x = "null" :=
  if_neg (h ▸ Bool.false_ne_true)

end PolicyBench.Json
