/-
  PolicyBench — what an analysis can be relied on for.

  The policies of a valid configuration are distinct and the baseline is one of
  them, and nothing in a log takes a policy away or adds one.  So once the
  configuration is valid there is a table and an outcome of the comparison.

  * `value_collect`: there is a run for each policy, in order;
  * `value_analyzeRuns_eq_ok_iff`, `exists_value_analyzeRuns_eq_ok`: what follows
    from the runs, and that it follows from runs of distinct policies;
  * `outcome_of_analyze`, `row?_of_analyze_eq`: the table and the comparison of an
    analysis, by the runs of its policies;
  * `analyze_fails_iff_config_invalid`: only the configuration makes an analysis
    fail, and what becomes of logs that cannot be read.
-/
import PolicyBench.Analysis
import PolicyBench.Proofs.Comparison
import PolicyBench.Proofs.Config.Basic
import PolicyBench.Proofs.Table.Runs

namespace PolicyBench

/-! ## Runs -/

section
variable (reader : LogReader) (readText : Path → Except FileError String)

@[simp] theorem Run.policy_ofLog (policy : String) (log : Path)
    (content : Except FileError String) :
    (Run.ofLog reader policy log content).value.policy = policy := by
  cases content with
  | error problem => rfl
  | ok text => rfl

/-- Why a log cannot be read does not matter to the run. -/
theorem Run.value_ofLog_congr (policy : String) (log : Path)
    {content content' : Except FileError String}
    (h : ∀ text, content = .ok text ↔ content' = .ok text) :
    (Run.ofLog reader policy log content).value = (Run.ofLog reader policy log content').value := by
  cases content with
  | ok text => rw [(h text).1 rfl]
  | error problem =>
    cases content' with
    | ok text => cases (h text).2 rfl
    | error problem' => rfl

/-- The run of a policy, from the file at the path of its log. -/
def runOf (logPath : String → Path) (policy : String) : Run :=
  (Run.ofLog reader policy (logPath policy) (readText (logPath policy))).value

/-- There is a run for each policy, in order. -/
theorem value_collect (logPath : String → Path) (policies : List String) :
    (collect reader readText logPath policies).value =
      policies.map (runOf reader readText logPath) := by
  induction policies with
  | nil => rfl
  | cons policy rest ih =>
    rw [collect, Logged.value_bind, Logged.value_bind, Logged.value_pure, ih]
    rfl

@[simp] theorem policy_runOf (logPath : String → Path) (policy : String) :
    (runOf reader readText logPath policy).policy = policy :=
  Run.policy_ofLog ..

/-- A log that can be read reports what is found in it. -/
theorem metrics_runOf_of_ok {logPath : String → Path} {policy text : String}
    (h : readText (logPath policy) = .ok text) :
    (runOf reader readText logPath policy).metrics = (reader text).value := by
  rw [runOf, h]
  rfl

/-- A log that cannot be read reports nothing. -/
theorem metrics_runOf_of_error {logPath : String → Path} {policy : String} {problem : FileError}
    (h : readText (logPath policy) = .error problem) :
    (runOf reader readText logPath policy).metrics = .empty := by
  rw [runOf, h]
  rfl

theorem isEmpty_runOf {logPath : String → Path} {policy : String} {problem : FileError}
    (h : readText (logPath policy) = .error problem) :
    (runOf reader readText logPath policy).metrics.isEmpty = true := by
  rw [metrics_runOf_of_error reader readText h]
  rfl

/-- A run is empty exactly if there is no log, or nothing is found in it. -/
theorem isEmpty_runOf_iff {logPath : String → Path} {policy : String} :
    (runOf reader readText logPath policy).metrics.isEmpty = true ↔
      ∀ text, readText (logPath policy) = .ok text → (reader text).value.isEmpty = true := by
  cases hlog : readText (logPath policy) with
  | error problem => exact iff_of_true (isEmpty_runOf reader readText hlog) nofun
  | ok text =>
    rw [metrics_runOf_of_ok reader readText hlog]
    constructor
    · rintro hempty _ ⟨rfl⟩
      exact hempty
    · exact fun h => h text rfl

theorem map_policy_runOf (logPath : String → Path) (policies : List String) :
    (policies.map (runOf reader readText logPath)).map (·.policy) = policies := by
  rw [List.map_map]
  conv => rhs; rw [← List.map_id policies]
  exact List.map_congr_left fun policy _ => policy_runOf ..

end

/-! ## From the runs to the outcome -/

section
variable {config : Config} {runs : List Run}

/-- What an analysis gives, by its table and its comparison. -/
theorem value_analyzeRuns_eq_ok_iff {a : Analysis} :
    (analyzeRuns config runs).value = .ok a ↔
      (Table.ofRuns config.timing runs).value = .ok a.table ∧
        (Comparison.ofTable a.table config.baseline).value = .ok a.comparison := by
  obtain ⟨table, comparison⟩ := a
  simp only [analyzeRuns, Logged.value_bind]
  cases (Table.ofRuns config.timing runs).value with
  | error problem => simp
  | ok t =>
    dsimp only
    rw [Logged.value_bind]
    cases hcompare : (Comparison.ofTable t config.baseline).value with
    | error problem =>
      simp only [Logged.value_pure, reduceCtorEq, Except.ok.injEq, false_iff, not_and]
      rintro rfl h
      rw [hcompare] at h
      cases h
    | ok c =>
      simp only [Logged.value_pure, Except.ok.injEq, Analysis.mk.injEq]
      constructor
      · rintro ⟨rfl, rfl⟩; exact ⟨rfl, hcompare⟩
      · rintro ⟨rfl, h⟩
        rw [hcompare] at h
        cases h
        exact ⟨rfl, rfl⟩

/-- The row of a run that is in the table. -/
theorem row?_of_mem_runs {table : Table} {run : Run} {timing : Timing}
    (h : (Table.ofRuns timing runs).value = .ok table) (hrun : run ∈ runs) :
    table.row? run.policy = some (run.row timing).value := by
  have hmem : (run.row timing).value ∈ table.rows := by
    rw [(Table.value_ofRuns_eq_ok_iff.1 h).2]
    exact mem_rowsOf.2 ⟨run, hrun, rfl⟩
  exact Table.row?_of_mem hmem

/-- Runs of distinct policies, the baseline among them, can be analysed. -/
theorem exists_value_analyzeRuns_eq_ok (hdistinct : (runs.map (·.policy)).Nodup)
    (hbaseline : config.baseline ∈ runs.map (·.policy)) :
    ∃ a, (analyzeRuns config runs).value = .ok a := by
  obtain ⟨table, htable⟩ := Table.exists_value_ofRuns_eq_ok_iff.2 hdistinct
  obtain ⟨run, hrun, hpolicy⟩ := List.mem_map.1 hbaseline
  have hrow := row?_of_mem_runs htable hrun
  rw [hpolicy] at hrow
  exact ⟨⟨table, _⟩,
    value_analyzeRuns_eq_ok_iff.2 ⟨htable, Comparison.value_ofTable_of_row? hrow⟩⟩

end

/-! ## Analyses -/

section
variable (config : Config) (readText : Path → Except FileError String) (reader : LogReader)

theorem value_analyze_of_valid (h : config.validate = .ok ()) :
    (analyze config readText reader).value =
      (analyzeRuns config (config.policies.map (runOf reader readText config.logPath))).value := by
  rw [analyze, h]
  dsimp only
  rw [Logged.value_bind, value_collect]

/-- An analysis of a valid configuration succeeds. -/
theorem exists_value_analyze_eq_ok (h : config.validate = .ok ()) :
    ∃ a, (analyze config readText reader).value = .ok a := by
  obtain ⟨-, -, hdistinct, hbaseline, -⟩ := Config.validate_eq_ok_iff.1 h
  rw [value_analyze_of_valid config readText reader h]
  apply exists_value_analyzeRuns_eq_ok <;> rw [map_policy_runOf]
  · exact hdistinct
  · exact hbaseline

/-- The problem of an analysis is that of its configuration. -/
theorem value_analyze_eq_error_iff {e : AnalysisError} :
    (analyze config readText reader).value = .error e ↔
      ∃ problem, config.validate = .error problem ∧ e = .config problem := by
  cases hvalid : config.validate with
  | error problem =>
    rw [analyze, hvalid]
    simp [eq_comm]
  | ok u =>
    obtain ⟨a, ha⟩ := exists_value_analyze_eq_ok config readText reader hvalid
    simp [ha]

section
variable {config readText reader} {a : Analysis}
variable (ha : (analyze config readText reader).value = .ok a)
include ha

/-- An analysis that succeeds is that of the runs of a valid configuration. -/
theorem outcome_of_analyze :
    config.validate = .ok () ∧
      (Table.ofRuns config.timing
        (config.policies.map (runOf reader readText config.logPath))).value = .ok a.table ∧
      (Comparison.ofTable a.table config.baseline).value = .ok a.comparison := by
  have hvalid : config.validate = .ok () := by
    cases hvalid : config.validate with
    | error problem => rw [analyze, hvalid] at ha; cases ha
    | ok u => rfl
  rw [value_analyze_of_valid config readText reader hvalid, value_analyzeRuns_eq_ok_iff] at ha
  exact ⟨hvalid, ha⟩

/-- The rows are those of the policies, in order. -/
theorem map_policy_rows_of_analyze : a.table.rows.map (·.policy) = config.policies := by
  obtain ⟨-, htable, -⟩ := outcome_of_analyze ha
  rw [(Table.value_ofRuns_eq_ok_iff.1 htable).2, map_policy_rowsOf]
  exact map_policy_runOf reader readText config.logPath config.policies

/-- The row of a policy is that of its run. -/
theorem row?_of_analyze {policy : String} (h : policy ∈ config.policies) :
    a.table.row? policy =
      some ((runOf reader readText config.logPath policy).row config.timing).value := by
  obtain ⟨-, htable, -⟩ := outcome_of_analyze ha
  have hrow := row?_of_mem_runs htable (List.mem_map_of_mem h)
  rwa [policy_runOf] at hrow

/-- A policy has the row of its run, and no other name has a row. -/
theorem row?_of_analyze_eq (policy : String) :
    a.table.row? policy = if policy ∈ config.policies then
      some ((runOf reader readText config.logPath policy).row config.timing).value else none := by
  split
  · next h => exact row?_of_analyze ha h
  · next h =>
    rw [Table.row?, List.find?_eq_none]
    intro row hrow hpolicy
    apply h
    rw [← map_policy_rows_of_analyze ha, ← beq_iff_eq.1 hpolicy]
    exact List.mem_map_of_mem hrow

/-- A policy whose log cannot be read has no values, and is not compared. -/
theorem unread_of_analyze {policy : String} (h : policy ∈ config.policies) {problem : FileError}
    (hproblem : readText (config.logPath policy) = .error problem) :
    (∃ row, a.table.row? policy = some row ∧ row.isEmpty = true) ∧
      ∀ comparison, a.comparison = some comparison → comparison.get? policy = none := by
  obtain ⟨-, -, hcompare⟩ := outcome_of_analyze ha
  have hrow := row?_of_analyze ha h
  have hempty := isEmpty_runOf reader readText hproblem
  rw [← Run.isEmpty_row config.timing] at hempty
  refine ⟨⟨_, hrow, hempty⟩, fun comparison hcomparison => ?_⟩
  rw [hcomparison] at hcompare
  have hnone := Comparison.get?_eq_none_of_isEmpty hcompare (List.mem_of_find?_eq_some hrow) hempty
  rwa [Run.policy_row, policy_runOf] at hnone

/-- Nothing is compared exactly if the baseline reports nothing. -/
theorem comparison_of_analyze_eq_none_iff :
    a.comparison = none ↔
      (runOf reader readText config.logPath config.baseline).metrics.isEmpty = true := by
  obtain ⟨hvalid, -, hcompare⟩ := outcome_of_analyze ha
  obtain ⟨-, -, -, hbaseline, -⟩ := Config.validate_eq_ok_iff.1 hvalid
  rw [Comparison.outcome_eq_none_iff (row?_of_analyze ha hbaseline) hcompare, Run.isEmpty_row]

end

/-- **Only the configuration makes an analysis fail.**  Otherwise the table has
    one row for each policy, in order; a policy whose log cannot be read has no
    values and no entry; and there is a comparison unless the run of the baseline is
    empty, that is, its log cannot be read or reports nothing. -/
theorem analyze_fails_iff_config_invalid :
    (∀ e, (analyze config readText reader).value = .error e ↔
      ∃ problem, config.validate = .error problem ∧ e = .config problem) ∧
    ∀ a, (analyze config readText reader).value = .ok a →
      a.table.rows.map (·.policy) = config.policies ∧
      (∀ policy ∈ config.policies, ∀ problem,
        readText (config.logPath policy) = .error problem →
          (∃ row, a.table.row? policy = some row ∧ row.isEmpty = true) ∧
          ∀ comparison, a.comparison = some comparison → comparison.get? policy = none) ∧
      (a.comparison = none ↔
        (runOf reader readText config.logPath config.baseline).metrics.isEmpty = true) ∧
      (a.comparison = none ↔ ∀ text, readText (config.logPath config.baseline) = .ok text →
        (reader text).value.isEmpty = true) := by
  refine ⟨fun e => value_analyze_eq_error_iff config readText reader, fun a ha => ?_⟩
  have hnone := comparison_of_analyze_eq_none_iff ha
  refine ⟨map_policy_rows_of_analyze ha, ?_, hnone, hnone.trans (isEmpty_runOf_iff reader readText)⟩
  intro policy hpolicy problem hproblem
  exact unread_of_analyze ha hpolicy hproblem

end

end PolicyBench
