/-
  PolicyBench — the metrics table.

  A table has a list of columns and one row for each policy.  A row holds the
  values that its policy has, each under the name of a column; the others are
  absent.

  * `Table` carries two facts: its policies are distinct, and every value of a
    row is in a column of the table;
  * `Table.ofRows` builds a table, or names the first row at fault and what is
    wrong with it (`TableError`);
  * `firstFault?_eq_none_iff`: there is no fault exactly if both facts hold;
  * `Table.row?` finds the row of a policy: `row?_of_mem` says that it is the
    only one of its name;
  * `Table.equal` compares two tables by number.
-/
import PolicyBench.Metric.Value
import PolicyBench.NameMap

namespace PolicyBench

/-! ## Rows -/

/-- The values of a policy, by column. -/
structure Row where
  policy : String
  values : NameMap MetricValue
  deriving DecidableEq

namespace Row

/-- The value in a column. -/
def get? (row : Row) (column : String) : Option MetricValue := row.values.get? column

/-- Whether the policy has no value at all. -/
def isEmpty (row : Row) : Bool := row.values.isEmpty

/-- Same policy, and equal values in the same columns. -/
def equal (r s : Row) : Bool :=
  r.policy == s.policy && r.values.names == s.values.names &&
    (r.values.entries.zip s.values.entries).all fun e => e.1.2.equal e.2.2

end Row

/-! ## Tables -/

/-- Why rows do not form a table. -/
inductive TableError where
  /-- an earlier row has the same policy -/
  | repeatedPolicy (policy : String)
  /-- a value is in no column -/
  | unknownColumn (policy column : String)
  deriving DecidableEq, Repr

/-- The problem in words. -/
def TableError.message : TableError → String
  | repeatedPolicy policy => "Duplicate policy " ++ Text.quoted policy
  | unknownColumn policy column =>
    "Policy " ++ Text.quoted policy ++ " has value for unknown column " ++ Text.quoted column

/-- The metrics of all policies. -/
structure Table where
  columns : List String
  rows : List Row
  distinct : rows.Pairwise fun r s => r.policy ≠ s.policy
  covered : ∀ row ∈ rows, ∀ name ∈ row.values.names, name ∈ columns

namespace Table

/-- What is wrong with a row, given the policies of the rows before it. -/
def fault? (columns earlier : List String) (row : Row) : Option TableError :=
  if row.policy ∈ earlier then some (.repeatedPolicy row.policy)
  else (row.values.names.find? (· ∉ columns)).map (.unknownColumn row.policy)

/-- What is wrong with the first row at fault. -/
def firstFault? (columns earlier : List String) : List Row → Option TableError
  | [] => none
  | row :: rest =>
    (fault? columns earlier row).or (firstFault? columns (row.policy :: earlier) rest)

theorem fault?_eq_none_iff {columns earlier : List String} {row : Row} :
    fault? columns earlier row = none ↔
      row.policy ∉ earlier ∧ ∀ name ∈ row.values.names, name ∈ columns := by
  unfold fault?
  split <;> simp_all

theorem firstFault?_eq_none_iff {columns earlier : List String} {rows : List Row} :
    firstFault? columns earlier rows = none ↔
      rows.Pairwise (fun r s => r.policy ≠ s.policy) ∧ (∀ row ∈ rows, row.policy ∉ earlier) ∧
        ∀ row ∈ rows, ∀ name ∈ row.values.names, name ∈ columns := by
  induction rows generalizing earlier with
  | nil => simp [firstFault?]
  | cons row rest ih =>
    rw [firstFault?, Option.or_eq_none_iff, fault?_eq_none_iff, ih, List.pairwise_cons]
    grind

/-- The table of the given columns and rows. -/
def ofRows (columns : List String) (rows : List Row) : Except TableError Table :=
  match h : firstFault? columns [] rows with
  | some problem => .error problem
  | none =>
    have := firstFault?_eq_none_iff.1 h
    .ok ⟨columns, rows, this.1, this.2.2⟩

/-- The row of a policy. -/
def row? (table : Table) (policy : String) : Option Row :=
  table.rows.find? (·.policy == policy)

/-- The values of the rows are the same numbers in the same places. -/
def equal (t u : Table) : Bool :=
  t.columns == u.columns && t.rows.length == u.rows.length &&
    (t.rows.zip u.rows).all fun r => r.1.equal r.2

theorem find?_of_mem {rows : List Row} (distinct : rows.Pairwise fun r s => r.policy ≠ s.policy)
    {row : Row} (h : row ∈ rows) : rows.find? (·.policy == row.policy) = some row := by
  induction rows with
  | nil => cases h
  | cons r rest ih =>
    obtain ⟨hr, hrest⟩ := List.pairwise_cons.1 distinct
    rcases List.mem_cons.1 h with rfl | hmem
    · simp
    · rw [List.find?_cons_of_neg (by simpa using hr row hmem)]
      exact ih hrest hmem

/-- A row of the table is the row of its policy. -/
theorem row?_of_mem {table : Table} {row : Row} (h : row ∈ table.rows) :
    table.row? row.policy = some row :=
  find?_of_mem table.distinct h

end Table

end PolicyBench
