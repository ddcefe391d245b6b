/-
  PolicyBench — the table of an analysis.

  The logs of a simulator report under names that no derived column has, so that
  the columns of the table are the reported names in order and then the first few
  of the derived ones, and a row holds what its log reports, all of it and
  nothing else.

  * `rawOnly_runOf`, `rawOnly_of_mem_runs`: no log reports under the name of a
    derived column;
  * `schema_of_simulator_logs`: the table of an analysis of simulator logs.
-/
import PolicyBench.Proofs.Analysis
import PolicyBench.Proofs.SimLog.Names
import PolicyBench.Proofs.Table.Schema

namespace PolicyBench

variable {config : Config} (readText : Path → Except FileError String)

/-- A simulator log, if it can be read, reports under its own names only. -/
theorem logName_of_mem_names_runOf {logPath : String → Path} {policy name : String}
    (h : name ∈ (runOf SimLog.read readText logPath policy).metrics.names) :
    SimLog.LogName name := by
  cases hlog : readText (logPath policy) with
  | error problem =>
    rw [metrics_runOf_of_error _ _ hlog] at h
    cases h
  | ok text =>
    rw [metrics_runOf_of_ok _ _ hlog] at h
    exact SimLog.logName_of_mem_names_read h

/-- It reports nothing under the name of a derived column. -/
theorem rawOnly_runOf (logPath : String → Path) (policy : String) :
    (runOf SimLog.read readText logPath policy).RawOnly :=
  fun _ hname => (logName_of_mem_names_runOf readText hname).notMem_derivedNames

theorem rawOnly_of_mem_runs {logPath : String → Path} {policies : List String} :
    ∀ run ∈ policies.map (runOf SimLog.read readText logPath), run.RawOnly := by
  rw [List.forall_mem_map]
  intro policy _
  exact rawOnly_runOf readText logPath policy

/-- **The table of an analysis of simulator logs.**  Its columns are names under
    which simulator logs report, in the order of their bytes, and then the first
    few of the derived columns; the counts in the row of a policy are what its
    log reports, and there are none if the log cannot be read. -/
theorem schema_of_simulator_logs (hvalid : config.validate = .ok ()) :
    ∃ a, (analyze config readText SimLog.read).value = .ok a ∧
      (∃ raw derived, a.table.Schema raw derived ∧ ∀ name ∈ raw, SimLog.LogName name) ∧
      ∀ policy ∈ config.policies, ∃ row, a.table.row? policy = some row ∧
        (∀ text, readText (config.logPath policy) = .ok text → ∀ name n,
          row.get? name = some (.count n) ↔ (SimLog.read text).value.get? name = some n) ∧
        ∀ problem, readText (config.logPath policy) = .error problem → row.isEmpty = true := by
  obtain ⟨a, ha⟩ := exists_value_analyze_eq_ok config readText SimLog.read hvalid
  obtain ⟨-, htable, -⟩ := outcome_of_analyze ha
  have hschema := Table.schema_of_ofRuns (rawOnly_of_mem_runs readText) htable
  refine ⟨a, ha, ⟨_, _, hschema, fun name hname => ?_⟩,
    fun policy hpolicy => ⟨_, row?_of_analyze ha hpolicy, fun text htext name n => ?_,
      fun problem hproblem => ?_⟩⟩
  · obtain ⟨run, hrun, hmem⟩ := mem_rawColumns.1 hname
    obtain ⟨policy, -, rfl⟩ := List.mem_map.1 hrun
    exact logName_of_mem_names_runOf readText hmem
  · rw [(rawOnly_runOf readText config.logPath policy).get?_row_eq_count_iff,
      metrics_runOf_of_ok _ _ htext]
  · rw [Run.isEmpty_row]
    exact isEmpty_runOf _ _ hproblem

/-- With the default settings: the log of the baseline, and no other. -/
def baselineLog (text : String) (path : Path) : Except FileError String :=
  if path = ({} : Config).logPath "baseline" then .ok text else .error .notFound

/-- A scalar behind a block: both are in the row of the baseline. -/
theorem schema_of_baselineLog :
    let text := "KV Cache Policy Statistics:\n hits: 3\n\ntotal_cycles: 8"
    ({} : Config).validate = .ok () ∧
    ∃ a, (analyze {} (baselineLog text) SimLog.read).value = .ok a ∧
      (∃ raw derived, a.table.Schema raw derived) ∧
      ∃ row, a.table.row? "baseline" = some row ∧
        row.get? "kv_hits" = some (.count 3) ∧ row.get? "total_cycles" = some (.count 8) := by
  intro text
  obtain ⟨a, ha, ⟨raw, derived, hschema, -⟩, hrows⟩ :=
    schema_of_simulator_logs (baselineLog text) Config.validate_default
  obtain ⟨row, hrow, hcounts, -⟩ := hrows "baseline" (by decide)
  have hcounts := hcounts text (if_pos rfl)
  exact ⟨Config.validate_default, a, ha, ⟨raw, derived, hschema⟩, row, hrow,
    (hcounts "kv_hits" 3).2 (by decide +kernel), (hcounts "total_cycles" 8).2 (by decide +kernel)⟩

end PolicyBench
