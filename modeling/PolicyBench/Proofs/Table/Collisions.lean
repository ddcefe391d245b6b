/-
  PolicyBench — metrics with the name of a derived column.

  What a log is read by may report under any name, also under that of a derived
  column.  Then the name heads two columns, one for what is reported and one for
  what is derived; and in the row of a policy for which a value is derived under
  the name, it stands in the place of what is reported.  All other metrics have one
  column and keep their values.

  * `get?_row_of_derived`, `get?_row_of_not_derived`: what a row holds under a name;
  * `one_lt_count_columns_iff`: which names head two columns;
  * `columns_and_counts_of_ofRuns`: both, for every table of runs;
  * `derived_over_reported`: a reported time that is lost.
-/
import Mathlib.Data.List.Nodup
import PolicyBench.Proofs.Except
import PolicyBench.Proofs.Table.Schema

namespace PolicyBench

variable {timing : Timing} {run : Run} {runs : List Run} {name : String}

/-! ## Values -/

theorem Run.names_derived_nodup : ((run.derived timing).value.map Prod.fst).Nodup :=
  derivedNames_nodup.sublist names_derived_prefix.sublist

/-- Where something is derived, the row holds that. -/
theorem Run.get?_row_of_derived {x : Binary64} (h : (name, x) ∈ (run.derived timing).value) :
    (run.row timing).value.get? name = some (.measure x) := by
  have hnodup : ((run.derived timing).value.reverse.map Prod.fst).Nodup := by
    rw [List.map_reverse, List.nodup_reverse]
    exact names_derived_nodup
  rw [get?_row, NameMap.lookup_of_nodup hnodup (List.mem_reverse.2 h)]
  rfl

/-- Where nothing is derived, the row holds what is reported. -/
theorem Run.get?_row_of_not_derived (h : name ∉ (run.derived timing).value.map Prod.fst) :
    (run.row timing).value.get? name = (run.metrics.get? name).map .count := by
  have hnone : NameMap.lookup name (run.derived timing).value.reverse = none := by
    rw [← Option.not_isSome_iff_eq_none, NameMap.lookup_isSome_iff, List.map_reverse,
      List.mem_reverse]
    exact h
  rw [get?_row, hnone]
  rfl

/-! ## Columns -/

/-- What is reported under the name of a derived column has a value in a row. -/
theorem mem_derivedColumns_of_reported (timing : Timing) (hname : name ∈ derivedNames)
    (hrun : run ∈ runs) (hmem : name ∈ run.metrics.names) :
    name ∈ derivedColumns (rowsOf timing runs).value := by
  have hrow : (run.row timing).value ∈ (rowsOf timing runs).value :=
    mem_rowsOf.2 ⟨run, hrun, rfl⟩
  exact mem_derivedColumns.2 ⟨hname, _, hrow, Run.mem_names_row.2 (.inr hmem)⟩

/-- A name heads two columns exactly if it is that of a derived column and there is
    a report under it. -/
theorem one_lt_count_columns_iff :
    1 < (rawColumns runs ++ derivedColumns (rowsOf timing runs).value).count name ↔
      name ∈ derivedNames ∧ ∃ run ∈ runs, name ∈ run.metrics.names := by
  have hraw : (rawColumns runs).count name ≤ 1 :=
    List.nodup_iff_count_le_one.1 (rawColumns_nodup runs) name
  have hderived : (derivedColumns (rowsOf timing runs).value).count name ≤ 1 :=
    List.nodup_iff_count_le_one.1 (derivedNames_nodup.sublist List.filter_sublist) name
  rw [List.count_append]
  constructor
  · intro h
    have hinRaw : name ∈ rawColumns runs := List.one_le_count_iff.1 (by omega)
    have hinDerived : name ∈ derivedColumns (rowsOf timing runs).value :=
      List.one_le_count_iff.1 (by omega)
    exact ⟨(mem_derivedColumns.1 hinDerived).1, mem_rawColumns.1 hinRaw⟩
  · rintro ⟨hname, run, hrun, hmem⟩
    have hinRaw := List.one_le_count_iff.2 (mem_rawColumns.2 ⟨run, hrun, hmem⟩)
    have hinDerived := List.one_le_count_iff.2
      (mem_derivedColumns_of_reported timing hname hrun hmem)
    omega

/-! ## Tables of runs -/

/-- **Only the names of derived columns head two columns, and only a derived value
    takes the place of a reported one.**  A name heads two columns exactly if it is
    that of a derived column and some run reports under it.  What a run reports is in
    its row, unless a value of that name is derived for the same run. -/
theorem columns_and_counts_of_ofRuns (timing : Timing)
    (hdistinct : (runs.map (·.policy)).Nodup) :
    ∃ table, (Table.ofRuns timing runs).value = .ok table ∧
      (∀ name, 1 < table.columns.count name ↔
        name ∈ derivedNames ∧ ∃ run ∈ runs, name ∈ run.metrics.names) ∧
      ∀ run ∈ runs, ∃ row, table.row? run.policy = some row ∧
        ∀ name n, run.metrics.get? name = some n →
          (name ∉ (run.derived timing).value.map Prod.fst → row.get? name = some (.count n)) ∧
          ∀ x, (name, x) ∈ (run.derived timing).value → row.get? name = some (.measure x) := by
  obtain ⟨table, htable⟩ := Table.exists_value_ofRuns_eq_ok_iff.2 hdistinct
  obtain ⟨hcolumns, hrows⟩ := Table.value_ofRuns_eq_ok_iff.1 htable
  refine ⟨table, htable, fun name => ?_, fun run hrun => ?_⟩
  · rw [hcolumns, one_lt_count_columns_iff]
  · have hrow : (run.row timing).value ∈ table.rows := by
      rw [hrows, value_rowsOf]
      exact List.mem_map_of_mem hrun
    refine ⟨_, Table.row?_of_mem hrow, fun name n hn => ⟨fun hname => ?_, fun x hx => ?_⟩⟩
    · rw [Run.get?_row_of_not_derived hname, hn, Option.map_some]
    · exact Run.get?_row_of_derived hx

/-- Two policies report under the name of the total time.  Only for the one that
    reports its cycles is a time derived in the place of the report. -/
theorem columns_and_counts_of_reported_times :
    let runs : List Run := [⟨"a", ⟨[(totalCycles, 8), (totalTimeNs, 7)], by decide⟩⟩,
      ⟨"b", ⟨[(totalTimeNs, 7)], by decide⟩⟩]
    (runs.map (·.policy)).Nodup ∧
    ∃ table, (Table.ofRuns {} runs).value = .ok table ∧
      1 < table.columns.count totalTimeNs ∧ ¬ 1 < table.columns.count totalCycles ∧
      (∃ row, table.row? "a" = some row ∧ row.get? totalCycles = some (.count 8) ∧
        row.get? totalTimeNs = some (.measure (.ofNat 10))) ∧
      ∃ row, table.row? "b" = some row ∧ row.get? totalTimeNs = some (.count 7) := by
  intro runs
  have hdistinct : (runs.map (·.policy)).Nodup := by decide
  obtain ⟨table, htable, hcolumns, hvalues⟩ := columns_and_counts_of_ofRuns {} hdistinct
  refine ⟨hdistinct, table, htable, (hcolumns _).2 ⟨by decide, by decide⟩,
    fun h => absurd ((hcolumns _).1 h).1 (by decide), ?_, ?_⟩
  · obtain ⟨row, hrow, hrun⟩ := hvalues _ List.mem_cons_self
    exact ⟨row, hrow, (hrun _ _ rfl).1 (by decide +kernel), (hrun _ 7 rfl).2 _ (by decide +kernel)⟩
  · obtain ⟨row, hrow, hrun⟩ := hvalues _ (List.mem_cons_of_mem _ List.mem_cons_self)
    exact ⟨row, hrow, (hrun _ _ rfl).1 (by decide +kernel)⟩

/-- A name is listed twice, and a reported time is lost. -/
theorem derived_over_reported :
    let run : Run := ⟨"a", ⟨[(totalCycles, 8), (totalTimeNs, 7)], by decide⟩⟩
    ([run].map (·.policy)).Nodup ∧ run.metrics.get? totalTimeNs = some 7 ∧
    ∃ table, (Table.ofRuns {} [run]).value = .ok table ∧ ¬ table.columns.Nodup ∧
      ∀ row, table.row? "a" = some row → row.get? totalTimeNs ≠ some (.count 7) := by
  intro run
  have hevaluated : ∃ table ∈ (Table.ofRuns {} [run]).value.toOption, ¬ table.columns.Nodup ∧
      ∀ row ∈ table.row? "a", row.get? totalTimeNs ≠ some (.count 7) := by
    decide +kernel
  obtain ⟨table, htable, hcolumns, hrow⟩ := hevaluated
  exact ⟨by decide, by decide, table, mem_toOption_iff.1 htable, hcolumns, hrow⟩

end PolicyBench
