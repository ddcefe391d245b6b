/-
  PolicyBench — building a table.

  * `ofRows_eq_ok_iff`: columns and rows make the table that has them, if there
    is one;
  * `exists_ofRows_eq_ok_iff`: there is one exactly if the policies are distinct
    and every value is in a column;
  * `firstFault?_eq_some_iff`, `ofRows_eq_error_iff`: else the first row at fault
    decides; where every value is in a column, only a policy can be at fault;
  * `Row.AllFinite`, `Table.AllFinite`: no value is NaN or infinite.
-/
import PolicyBench.Table.Basic
import PolicyBench.Proofs.Except
import PolicyBench.Proofs.Metric.Text
import PolicyBench.Proofs.NameMap

namespace PolicyBench

/-- No value of the row is NaN or infinite. -/
def Row.AllFinite (row : Row) : Prop := ∀ e ∈ row.values.entries, e.2.isFinite = true

theorem Row.allFinite_iff {row : Row} :
    row.AllFinite ↔ ∀ column v, row.get? column = some v → v.isFinite = true :=
  ⟨fun h column v hv => h (column, v) (NameMap.get?_eq_some_iff.1 hv),
    fun h e he => h e.1 e.2 (NameMap.get?_eq_some_iff.2 he)⟩

namespace Table

/-- No value of the table is NaN or infinite. -/
def AllFinite (table : Table) : Prop := ∀ row ∈ table.rows, row.AllFinite

theorem ext_columns_rows {t u : Table} (hc : t.columns = u.columns) (hr : t.rows = u.rows) :
    t = u := by
  cases t; cases u; simp_all

/-- A table is built from its columns and rows. -/
theorem ofRows_columns_rows (table : Table) : ofRows table.columns table.rows = .ok table := by
  have hnone : firstFault? table.columns [] table.rows = none :=
    firstFault?_eq_none_iff.2 ⟨table.distinct, by simp, table.covered⟩
  unfold ofRows
  split
  · next h => rw [hnone] at h; cases h
  · rfl

theorem ofRows_eq_ok_iff {columns : List String} {rows : List Row} {table : Table} :
    ofRows columns rows = .ok table ↔ table.columns = columns ∧ table.rows = rows := by
  constructor
  · intro h
    unfold ofRows at h
    split at h
    · cases h
    · cases h; exact ⟨rfl, rfl⟩
  · rintro ⟨rfl, rfl⟩
    exact ofRows_columns_rows table

theorem exists_ofRows_eq_ok_iff {columns : List String} {rows : List Row} :
    (∃ table, ofRows columns rows = .ok table) ↔
      rows.Pairwise (fun r s => r.policy ≠ s.policy) ∧
        ∀ row ∈ rows, ∀ name ∈ row.values.names, name ∈ columns := by
  constructor
  · rintro ⟨table, h⟩
    obtain ⟨rfl, rfl⟩ := ofRows_eq_ok_iff.1 h
    exact ⟨table.distinct, table.covered⟩
  · rintro ⟨hd, hc⟩
    exact ⟨⟨columns, rows, hd, hc⟩, ofRows_eq_ok_iff.2 ⟨rfl, rfl⟩⟩

/-- The first row at fault comes after rows that are not. -/
theorem firstFault?_eq_some_iff {columns earlier : List String} {rows : List Row}
    {problem : TableError} :
    firstFault? columns earlier rows = some problem ↔
      ∃ before row after, rows = before ++ row :: after ∧
        firstFault? columns earlier before = none ∧
        fault? columns ((before.map (·.policy)).reverse ++ earlier) row = some problem := by
  induction rows generalizing earlier with
  | nil => exact iff_of_false nofun not_exists_split_nil
  | cons row rest ih =>
    rw [exists_split_cons_iff, firstFault?]
    simp only [firstFault?, List.map_nil, List.reverse_nil, List.nil_append, true_and,
      List.map_cons, List.reverse_cons, List.append_assoc, List.cons_append,
      Option.or_eq_none_iff]
    cases fault? columns earlier row with
    | some fault =>
      simp only [Option.some_or, reduceCtorEq, false_and, and_false, exists_false, or_false]
    | none => simp only [Option.none_or, ih, reduceCtorEq, true_and, false_or]

theorem ofRows_eq_error_iff {columns : List String} {rows : List Row} {problem : TableError} :
    ofRows columns rows = .error problem ↔ firstFault? columns [] rows = some problem := by
  unfold ofRows
  split
  · next h => rw [h, Except.error.injEq, Option.some.injEq]
  · next h => exact iff_of_false nofun fun h' => nomatch h.symm.trans h'

/-- A row with its values in the columns is refused for its policy only. -/
theorem fault?_of_covered {columns earlier : List String} {row : Row}
    (hcovered : ∀ name ∈ row.values.names, name ∈ columns) :
    fault? columns earlier row =
      if row.policy ∈ earlier then some (.repeatedPolicy row.policy) else none := by
  have hnone : row.values.names.find? (· ∉ columns) = none :=
    List.find?_eq_none.2 fun name hname => by simpa using hcovered name hname
  rw [fault?, hnone, Option.map_none]

/-- If every value is in a column, only a policy can be at fault: the first that an
    earlier row has. -/
theorem ofRows_eq_error_iff_of_covered {columns : List String} {rows : List Row}
    {problem : TableError}
    (hcovered : ∀ row ∈ rows, ∀ name ∈ row.values.names, name ∈ columns) :
    ofRows columns rows = .error problem ↔
      ∃ before policy after, rows.map (·.policy) = before ++ policy :: after ∧ before.Nodup ∧
        policy ∈ before ∧ problem = .repeatedPolicy policy := by
  rw [ofRows_eq_error_iff, firstFault?_eq_some_iff, exists_split_map_iff]
  refine exists_congr fun before => exists_congr fun row => exists_congr fun after =>
    and_congr_right ?_
  rintro rfl
  have hbefore : firstFault? columns [] before = none ↔ (before.map (·.policy)).Nodup := by
    rw [firstFault?_eq_none_iff, List.Nodup, List.pairwise_map]
    refine and_iff_left ⟨by simp, fun r hr => ?_⟩
    exact hcovered r (List.mem_append_left _ hr)
  have hrow := hcovered row (List.mem_append_right _ List.mem_cons_self)
  rw [hbefore, List.append_nil, fault?_of_covered hrow, Option.ite_none_right_eq_some,
    List.mem_reverse, Option.some.injEq, eq_comm]

end Table

end PolicyBench
