/-
  PolicyBench — comparisons do not depend on the timing constants.

  The constants decide what is derived from the cycles, and derived values stand in the
  same rows as the counts that are compared.  But none of them has the name of such a
  count, and something is derived only in a row that is not empty anyway.  So no
  constants, usable or not, make a difference to a comparison.

  * `Comparison.value_ofTable_congr`: two tables with the same counts are compared
    alike if the row of the baseline is empty in both or in none;
  * `Run.compared_row`: what is compared of a run, in the words of its report;
  * `comparison_free_of_timing`: the same runs are compared alike under any two
    choices of the constants.
-/
import PolicyBench.Proofs.Comparison.Justified
import PolicyBench.Proofs.Table.Collisions

namespace PolicyBench

/-! ## Tables with the same counts -/

/-- What a comparison depends on: the counts, and whether the baseline has values. -/
theorem Comparison.value_ofTable_congr {table other : Table} {baseline : String}
    (hsame : table.SameCounts other)
    (hempty : (table.row? baseline).map Row.isEmpty = (other.row? baseline).map Row.isEmpty) :
    (ofTable table baseline).value = (ofTable other baseline).value := by
  cases hbase : table.row? baseline with
  | none =>
    rw [hbase, Option.map_none, eq_comm, Option.map_eq_none_iff] at hempty
    rw [value_ofTable_eq_error_iff.2 ⟨hbase, rfl⟩, value_ofTable_eq_error_iff.2 ⟨hempty, rfl⟩]
  | some base =>
    have hrow := hsame.row? baseline
    rw [hbase, Option.map_some, eq_comm, Option.map_eq_some_iff] at hrow hempty
    obtain ⟨base', hbase', hcompared⟩ := hrow
    obtain ⟨_, h, hempty⟩ := hempty
    obtain rfl := Option.some.inj (hbase'.symm.trans h)
    rw [value_ofTable_of_row? hbase, value_ofTable_of_row? hbase', hempty,
      value_baselineCycles_congr hcompared, value_baselineConflicts_congr hcompared,
      compareRows_congr hsame]

/-! ## Rows of runs -/

variable {timing : Timing} {run : Run} {runs : List Run} {table : Table}

/-- Under a name that is not that of a derived value stands the report. -/
theorem Run.count?_row {name : String} (h : name ∉ derivedNames) :
    (run.row timing).value.count? name = run.metrics.get? name := by
  rw [Row.count?, get?_row_of_not_derived fun hmem => h <| names_derived_prefix.subset hmem]
  cases run.metrics.get? name <;> rfl

/-- What is compared of a run is what it reports. -/
theorem Run.compared_row : (run.row timing).value.compared =
    (run.policy, run.metrics.get? totalCycles, run.metrics.get? totalConflicts) := by
  rw [Row.compared, count?_row (by decide), count?_row (by decide), policy_row]

/-- The row of a policy is that of its run. -/
theorem Table.row?_of_ofRuns (h : (Table.ofRuns timing runs).value = .ok table)
    (policy : String) : table.row? policy =
      (runs.find? (·.policy == policy)).map fun run => (run.row timing).value := by
  rw [Table.row?, (value_ofRuns_eq_ok_iff.1 h).2, value_rowsOf, List.find?_map]
  rfl

/-- What is compared of the table of runs does not depend on the constants. -/
theorem Table.map_compared_of_ofRuns (h : (Table.ofRuns timing runs).value = .ok table) :
    table.rows.map Row.compared = runs.map fun run =>
      (run.policy, run.metrics.get? totalCycles, run.metrics.get? totalConflicts) := by
  rw [(value_ofRuns_eq_ok_iff.1 h).2, value_rowsOf, List.map_map]
  exact List.map_congr_left fun run _ => Run.compared_row

/-- Nor does it depend on them whether a policy has values. -/
theorem Table.isEmpty_row?_of_ofRuns (h : (Table.ofRuns timing runs).value = .ok table)
    (policy : String) : (table.row? policy).map Row.isEmpty =
      (runs.find? (·.policy == policy)).map (·.metrics.isEmpty) := by
  rw [row?_of_ofRuns h, Option.map_map]
  congr 1
  funext run
  exact Run.isEmpty_row timing run

/-! ## Comparisons of runs -/

/-- **The timing constants make no difference to a comparison.**  Runs of distinct
    policies have a table under any constants, and whatever the baseline is, the tables
    under any two choices have the same outcome: the same problem, no comparison, or the
    same one. -/
theorem comparison_free_of_timing (hdistinct : (runs.map (·.policy)).Nodup)
    (timing timing' : Timing) (baseline : String) :
    ∃ table table', (Table.ofRuns timing runs).value = .ok table ∧
      (Table.ofRuns timing' runs).value = .ok table' ∧
      (Comparison.ofTable table baseline).value = (Comparison.ofTable table' baseline).value := by
  obtain ⟨table, htable⟩ := Table.exists_value_ofRuns_eq_ok_iff.2 hdistinct
  obtain ⟨table', htable'⟩ := Table.exists_value_ofRuns_eq_ok_iff.2 hdistinct
  refine ⟨table, table', htable, htable', Comparison.value_ofTable_congr ?_ ?_⟩
  · exact (Table.map_compared_of_ofRuns htable).trans (Table.map_compared_of_ofRuns htable').symm
  · rw [Table.isEmpty_row?_of_ofRuns htable, Table.isEmpty_row?_of_ofRuns htable']

/-- A period that is no number leaves nothing to derive, so that the reported time of the
    baseline stays in its row.  The comparison is the same. -/
theorem comparison_free_of_timing_without_period :
    let runs : List Run := [⟨"a", ⟨[(totalCycles, 8), (totalTimeNs, 7)], by decide⟩⟩,
      ⟨"b", ⟨[(totalCycles, 6)], by decide⟩⟩]
    (runs.map (·.policy)).Nodup ∧
    ∃ table table', (Table.ofRuns {} runs).value = .ok table ∧
      (Table.ofRuns { cyclePeriod := .nan } runs).value = .ok table' ∧
      table.columns ≠ table'.columns ∧
      (Comparison.ofTable table "a").value = (Comparison.ofTable table' "a").value := by
  intro runs
  have hdistinct : (runs.map (·.policy)).Nodup := by decide
  obtain ⟨table, table', htable, htable', hsame⟩ :=
    comparison_free_of_timing hdistinct {} { cyclePeriod := .nan } "a"
  refine ⟨hdistinct, table, table', htable, htable', ?_, hsame⟩
  rw [(Table.value_ofRuns_eq_ok_iff.1 htable).1, (Table.value_ofRuns_eq_ok_iff.1 htable').1]
  decide +kernel

end PolicyBench
