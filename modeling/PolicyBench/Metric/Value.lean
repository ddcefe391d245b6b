/-
  PolicyBench — metric values.

  A metric value is a count, as a simulator reports it, or a measure derived
  from counts.  Its text keeps the kind: a finite measure always has a decimal
  point, and a count never.

  * `MetricValue` is a value, `MetricValue.text` its text;
  * `MetricValue.parse` reads a text: one with a point as a measure, any other
    as a count;
  * `ValueError` says why a text is no value;
  * `MetricValue.equal` compares kind and number.
-/
import PolicyBench.Count
import PolicyBench.Binary64.Arithmetic
import PolicyBench.Binary64.Text
import PolicyBench.Text.Quoted

namespace PolicyBench

/-- The value of a metric. -/
inductive MetricValue where
  /-- reported by the simulator -/
  | count (n : UInt64)
  /-- derived from reported counts -/
  | measure (x : Binary64)
  deriving DecidableEq, Inhabited

/-- Why a text is no metric value. -/
inductive ValueError where
  /-- it has a point but is no decimal number -/
  | float (text : String)
  /-- it has no point and is no count -/
  | integer (text : String) (problem : CountError)
  deriving DecidableEq, Repr

/-- The problem in words. -/
def ValueError.message : ValueError → String
  | float text => "Unable to parse float " ++ Text.quoted text ++ ": invalid float literal"
  | integer text problem =>
    "Unable to parse integer " ++ Text.quoted text ++ ": " ++ problem.message

namespace MetricValue

/-- A measure is written without exponent, and always with a point if finite. -/
def measureStyle : Binary64.Style := ⟨.up, none, true, false⟩

/-- The text of a value. -/
def text : MetricValue → String
  | count n => Nat.repr n.toNat
  | measure x => x.write measureStyle

/-- The value that a text stands for. -/
def parse (s : String) : Except ValueError MetricValue :=
  if '.' ∈ s.toList then
    match Binary64.ofText? s.toList with
    | some x => .ok (measure x)
    | none => .error (.float s)
  else
    match readCount s.toList with
    | .ok n => .ok (count n)
    | .error problem => .error (.integer s problem)

/-- The value as a floating-point number. -/
def toBinary64 : MetricValue → Binary64
  | count n => .ofNat n.toNat
  | measure x => x

/-- The value if it is a count. -/
def count? : MetricValue → Option UInt64
  | count n => some n
  | measure _ => none

/-- Same kind and same number; NaN is equal to nothing. -/
def equal : MetricValue → MetricValue → Bool
  | count m, count n => m == n
  | measure x, measure y => x.equal y
  | _, _ => false

end MetricValue

end PolicyBench
