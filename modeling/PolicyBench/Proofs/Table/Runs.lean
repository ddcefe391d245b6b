/-
  PolicyBench — the table of a set of runs.

  The columns of such a table hold every name that occurs in a row, so that only
  a repeated policy can keep the runs from making a table.

  * `value_derive`: what is derived, whatever is reported on the way;
  * `value_rowsOf`: the rows are those of the runs, in their order;
  * `covered_rowsOf`: each of their values is in a column;
  * `Run.isEmpty_row`: a row is empty exactly if the run reports nothing;
  * `Table.value_ofRuns_eq_ok_iff`, `Table.exists_value_ofRuns_eq_ok_iff`: the
    table, and when there is one.
-/
import PolicyBench.Proofs.Table.Basic
import PolicyBench.Proofs.Table.Columns

namespace PolicyBench

variable {timing : Timing} {run : Run} {runs : List Run}

/-! ## Derived values -/

theorem value_finiteOrReport (x : Binary64) (problem : Event) :
    (finiteOrReport x problem).value = x.finite? := by
  unfold finiteOrReport
  cases x.finite? with
  | none => rfl
  | some x => rfl

/-- What is derived, without the events. -/
theorem value_derive (policy : String) (cycles : UInt64) (ns tokens : Binary64) :
    (derive policy cycles ns tokens).value =
      match ns.finite? with
      | none => []
      | some ns =>
        let seconds := ns / nanosecondsPerSecond
        let times := [(totalTimeNs, ns), (totalTimeSeconds, seconds)]
        if seconds.isZero then times
        else times ++ ((tokens / seconds).finite?.map (throughput, ·)).toList := by
  unfold derive
  rw [Logged.value_bind, value_finiteOrReport]
  cases ns.finite? with
  | none => rfl
  | some ns =>
    dsimp only
    split
    · rfl
    · rw [Logged.value_bind, value_finiteOrReport]
      cases (tokens / (ns / nanosecondsPerSecond)).finite? with
      | none => rfl
      | some rate => rfl

/-- Of the derived columns, a policy has values in the first few. -/
theorem names_derive_prefix (policy : String) (cycles : UInt64) (ns tokens : Binary64) :
    (derive policy cycles ns tokens).value.map Prod.fst <+: derivedNames := by
  rw [value_derive]
  cases ns.finite? with
  | none => exact List.nil_prefix
  | some ns =>
    dsimp only
    split
    · exact ⟨[throughput], rfl⟩
    · cases (tokens / (ns / nanosecondsPerSecond)).finite? with
      | none => exact ⟨[throughput], rfl⟩
      | some rate => exact List.prefix_refl _

theorem Run.names_derived_prefix : (run.derived timing).value.map Prod.fst <+: derivedNames := by
  unfold derived
  split
  · exact names_derive_prefix ..
  · exact List.nil_prefix

theorem Run.derived_of_isEmpty (h : run.metrics.isEmpty = true) :
    run.derived timing = pure [] := by
  unfold derived
  rw [NameMap.isEmpty_iff.1 h]

/-! ## Rows -/

/-- The values of a row are the metrics of the run, and what is derived. -/
theorem Run.value_row : (run.row timing).value = ⟨run.policy,
    (run.metrics.map .count).insertAll
      ((run.derived timing).value.map fun d => (d.1, .measure d.2))⟩ := rfl

@[simp] theorem Run.policy_row : (run.row timing).value.policy = run.policy := rfl

/-- The names in a row are those of the metrics and of the derived values. -/
theorem Run.mem_names_row {name : String} :
    name ∈ (run.row timing).value.values.names ↔
      name ∈ (run.derived timing).value.map Prod.fst ∨ name ∈ run.metrics.names := by
  rw [value_row, NameMap.mem_names_insertAll, NameMap.names_map, List.map_map]
  rfl

/-- A row is empty exactly if the run reports nothing. -/
theorem Run.isEmpty_row (timing : Timing) (run : Run) :
    (run.row timing).value.isEmpty = run.metrics.isEmpty := by
  rw [Bool.eq_iff_iff]
  constructor
  · intro h
    rw [Row.isEmpty, NameMap.isEmpty_iff_names] at h
    rw [NameMap.isEmpty_iff_names]
    exact fun name hname => h name (mem_names_row.2 (.inr hname))
  · intro h
    rw [Row.isEmpty, NameMap.isEmpty_iff_names]
    intro name hname
    rw [mem_names_row, derived_of_isEmpty h] at hname
    rcases hname with hname | hname
    · cases hname
    · exact NameMap.isEmpty_iff_names.1 h name hname

/-- The rows are those of the runs. -/
theorem value_rowsOf : (rowsOf timing runs).value = runs.map fun run => (run.row timing).value := by
  induction runs with
  | nil => rfl
  | cons run rest ih =>
    rw [rowsOf, Logged.value_bind, Logged.value_bind, Logged.value_pure, ih, List.map_cons]

theorem mem_rowsOf {row : Row} :
    row ∈ (rowsOf timing runs).value ↔ ∃ run ∈ runs, (run.row timing).value = row := by
  rw [value_rowsOf, List.mem_map]

/-- A row has the policy of its run. -/
theorem map_policy_rowsOf (timing : Timing) (runs : List Run) :
    (rowsOf timing runs).value.map (·.policy) = runs.map (·.policy) := by
  rw [value_rowsOf, List.map_map]
  rfl

/-! ## Columns -/

theorem mem_derivedColumns {rows : List Row} {name : String} :
    name ∈ derivedColumns rows ↔
      name ∈ derivedNames ∧ ∃ row ∈ rows, name ∈ row.values.names := by
  simp [derivedColumns, Row.get?, NameMap.mem_names_iff]

/-- Every value of a row is in a column. -/
theorem covered_rowsOf (timing : Timing) (runs : List Run) :
    ∀ row ∈ (rowsOf timing runs).value, ∀ name ∈ row.values.names,
      name ∈ rawColumns runs ++ derivedColumns (rowsOf timing runs).value := by
  intro row hrow name hname
  obtain ⟨run, hrun, rfl⟩ := mem_rowsOf.1 hrow
  rw [List.mem_append]
  rcases Run.mem_names_row.1 hname with hderived | hraw
  · have hcolumn := Run.names_derived_prefix.subset hderived
    exact .inr (mem_derivedColumns.2 ⟨hcolumn, _, hrow, hname⟩)
  · exact .inl (mem_rawColumns.2 ⟨run, hrun, hraw⟩)

/-! ## The table -/

namespace Table

/-- The table of runs has their columns and rows. -/
theorem value_ofRuns_eq_ok_iff {table : Table} :
    (Table.ofRuns timing runs).value = .ok table ↔
      table.columns = rawColumns runs ++ derivedColumns (rowsOf timing runs).value ∧
        table.rows = (rowsOf timing runs).value :=
  ofRows_eq_ok_iff

/-- Runs make a table exactly if their policies are distinct. -/
theorem exists_value_ofRuns_eq_ok_iff :
    (∃ table, (Table.ofRuns timing runs).value = .ok table) ↔ (runs.map (·.policy)).Nodup := by
  rw [← map_policy_rowsOf timing, List.Nodup, List.pairwise_map]
  exact exists_ofRows_eq_ok_iff.trans (and_iff_left (covered_rowsOf timing runs))

end Table

end PolicyBench
