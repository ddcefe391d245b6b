/-
  PolicyBench — comparison with a baseline.

  The policies of a table are compared with one of them, the baseline: by how
  many percent they take fewer cycles, and by how many percent they have fewer
  conflicts.  Only counts are compared.

  * `cycleImprovement`, `conflictReduction` are the two percentages;
  * `Comparison` is the outcome, `Comparison.get?` the entry of a policy;
  * `Comparison.ofTable` compares: it fails if the baseline has no row, and has
    no outcome if that row is empty;
  * `compareRow` is the entry of one row, if anything can be compared.
-/
import PolicyBench.Logged
import PolicyBench.SimLog.Metrics
import PolicyBench.Table.Basic

namespace PolicyBench

/-! ## Percentages -/

/-- `(baseline - value) / baseline` in percent, each step rounded. -/
def percentBelow (baseline value : UInt64) : Binary64 :=
  (.ofNat baseline.toNat - .ofNat value.toNat) / .ofNat baseline.toNat * .ofNat 100

/-- By how many percent `value` cycles are fewer than those of the baseline,
    which must not be zero. -/
def cycleImprovement (baseline value : UInt64) : Binary64 := percentBelow baseline value

/-- By how many percent `value` conflicts are fewer than those of the baseline;
    nothing is saved where there were none. -/
def conflictReduction (baseline value : UInt64) : Binary64 :=
  if baseline = 0 then .zero false else percentBelow baseline value

/-! ## Outcome -/

/-- How a policy compares with the baseline. -/
structure ComparisonEntry where
  policy : String
  /-- in percent; positive if the policy took fewer cycles -/
  cycleImprovement : Option Binary64
  /-- in percent; positive if the policy had fewer conflicts, negative without
      bound if it had more -/
  conflictReduction : Option Binary64
  deriving DecidableEq

/-- How the policies of a table compare with the baseline. -/
structure Comparison where
  baseline : String
  /-- in table order; policies that cannot be compared have none -/
  entries : List ComparisonEntry
  deriving DecidableEq

/-- The entry of a policy. -/
def Comparison.get? (comparison : Comparison) (policy : String) : Option ComparisonEntry :=
  comparison.entries.find? (·.policy == policy)

/-- Why a table cannot be compared. -/
inductive ComparisonError where
  | noBaseline (baseline : String)
  deriving DecidableEq, Repr

/-- The problem in words. -/
def ComparisonError.message : ComparisonError → String
  | noBaseline baseline => "Baseline policy " ++ Text.quoted baseline ++ " is not in the table"

/-! ## Comparing -/

/-- The count in a column of a row. -/
def Row.count? (row : Row) (column : String) : Option UInt64 :=
  (row.get? column).bind MetricValue.count?

/-- The cycles of the baseline, if others can be compared with them. -/
def baselineCycles (row : Row) : Logged (Option UInt64) :=
  match row.count? totalCycles with
  | none => do
    .report (.baselineNoCycles row.policy)
    return none
  | some cycles =>
    if cycles = 0 then do
      .report (.baselineZeroCycles row.policy)
      return none
    else pure (some cycles)

/-- The conflicts of the baseline, if others can be compared with them. -/
def baselineConflicts (row : Row) : Logged (Option UInt64) :=
  match row.count? totalConflicts with
  | none => do
    .report (.baselineNoConflicts row.policy)
    return none
  | some conflicts => pure (some conflicts)

/-- The percentage for two counts, if there are two. -/
def percentage (f : UInt64 → UInt64 → Binary64) (baseline value : Option UInt64) :
    Option Binary64 :=
  baseline.bind fun b => value.map fun v => f b v

/-- The entry of a row, given the counts of the baseline. -/
def compareRow (cycles conflicts : Option UInt64) (row : Row) : Option ComparisonEntry :=
  let improvement := percentage cycleImprovement cycles (row.count? totalCycles)
  let reduction := percentage conflictReduction conflicts (row.count? totalConflicts)
  if improvement.isSome || reduction.isSome then some ⟨row.policy, improvement, reduction⟩
  else none

/-- The entries of the rows other than the baseline. -/
def compareRows (baseline : String) (cycles conflicts : Option UInt64) :
    List Row → Logged (List ComparisonEntry)
  | [] => pure []
  | row :: rest =>
    if row.policy = baseline then compareRows baseline cycles conflicts rest
    else
      match compareRow cycles conflicts row with
      | some entry => do return entry :: (← compareRows baseline cycles conflicts rest)
      | none => do
        .report (.notComparable row.policy)
        compareRows baseline cycles conflicts rest

/-- Compares the policies of a table with the baseline. -/
def Comparison.ofTable (table : Table) (baseline : String) :
    Logged (Except ComparisonError (Option Comparison)) :=
  match table.row? baseline with
  | none => pure (.error (.noBaseline baseline))
  | some row =>
    if row.isEmpty then do
      .report (.baselineEmpty baseline)
      return .ok none
    else do
      let cycles ← baselineCycles row
      let conflicts ← baselineConflicts row
      let entries ← compareRows baseline cycles conflicts table.rows
      return .ok (some ⟨baseline, entries⟩)

end PolicyBench
