/-
  PolicyBench — what an analysis without a warning has kept.

  A warning says that data was lost.  The converse holds as well: whatever is lost
  on the way from the logs to the comparison is reported by one.  So an analysis
  without a warning has read every log, and every number in it that it looked at;
  its table has all that can be derived; and every policy is compared as far as
  its log goes.

  * `Lossless`: nothing is lost on the way from the logs to a table;
  * `Comparison.Covers`: a comparison leaves out no policy with counts;
  * `quiet_collect_iff`, `quiet_collect_read_iff`: the runs are collected without a
    warning exactly if every log can be read and is read without one;
  * `quiet_analyzeRuns_iff`: what comes after the runs;
  * `quiet_analyze_iff_lossless`: an analysis makes no warning exactly if nothing
    is lost.
-/
import PolicyBench.Proofs.Schema
import PolicyBench.Proofs.SimLog.Warnings
import PolicyBench.Proofs.Table.Warnings

namespace PolicyBench

/-! ## Nothing is lost -/

/-- Every log can be read, its numbers are counts, the rows of the table are
    complete, and the others can be compared with the baseline. -/
structure Lossless (config : Config) (readText : Path → Except FileError String)
    (table : Table) : Prop where
  readable : ∀ policy ∈ config.policies, ∃ text, readText (config.logPath policy) = .ok text
  fits : ∀ policy ∈ config.policies, ∀ text, readText (config.logPath policy) = .ok text →
    SimLog.Fits text
  complete : ∀ row ∈ table.rows, row.Complete
  baseline : ∃ row, table.row? config.baseline = some row ∧ row.FitsBaseline

/-- Every row but that of the baseline has an entry for what it counts. -/
structure Comparison.Covers (comparison : Comparison) (table : Table) (baseline : String) :
    Prop where
  cycles : ∀ row ∈ table.rows, row.policy ≠ baseline → totalCycles ∈ row.values.names →
    ∃ entry x, comparison.get? row.policy = some entry ∧ entry.cycleImprovement = some x
  conflicts : ∀ row ∈ table.rows, row.policy ≠ baseline → totalConflicts ∈ row.values.names →
    ∃ entry x, comparison.get? row.policy = some entry ∧ entry.conflictReduction = some x

/-! ## Runs -/

section
variable {reader : LogReader} {readText : Path → Except FileError String}

/-- A log that cannot be read is reported. -/
theorem Run.quiet_ofLog_iff {policy : String} {log : Path} {content : Except FileError String} :
    (Run.ofLog reader policy log content).Quiet ↔
      ∃ text, content = .ok text ∧ (reader text).Quiet := by
  cases content with
  | error problem =>
    refine iff_of_false (Logged.not_quiet_report_bind rfl) ?_
    rintro ⟨text, htext, -⟩
    cases htext
  | ok text =>
    rw [Run.ofLog, Logged.quiet_bind_iff, and_iff_left (Logged.quiet_report_pure rfl _)]
    refine ⟨fun h => ⟨text, rfl, h⟩, ?_⟩
    rintro ⟨_, ⟨rfl⟩, h⟩
    exact h

theorem quiet_collect_iff {logPath : String → Path} {policies : List String} :
    (collect reader readText logPath policies).Quiet ↔
      ∀ policy ∈ policies, ∃ text, readText (logPath policy) = .ok text ∧ (reader text).Quiet := by
  induction policies with
  | nil => exact iff_of_true (Logged.quiet_pure _) (List.forall_mem_nil _)
  | cons policy rest ih =>
    rw [List.forall_mem_cons, ← ih, ← Run.quiet_ofLog_iff, collect, Logged.quiet_bind_iff,
      Logged.quiet_bind_iff]
    exact and_congr_right fun _ => and_iff_left (Logged.quiet_pure _)

/-- Simulator logs are collected without a warning exactly if they can be read and
    their numbers are counts. -/
theorem quiet_collect_read_iff {logPath : String → Path} {policies : List String} :
    (collect SimLog.read readText logPath policies).Quiet ↔
      (∀ policy ∈ policies, ∃ text, readText (logPath policy) = .ok text) ∧
        ∀ policy ∈ policies, ∀ text, readText (logPath policy) = .ok text → SimLog.Fits text := by
  simp only [quiet_collect_iff, SimLog.quiet_read_iff]
  constructor
  · intro h
    refine ⟨fun policy hpolicy => ?_, fun policy hpolicy text htext => ?_⟩
    · obtain ⟨text, htext, -⟩ := h policy hpolicy
      exact ⟨text, htext⟩
    · obtain ⟨other, hother, hfits⟩ := h policy hpolicy
      rw [htext] at hother
      cases hother
      exact hfits
  · rintro ⟨hreadable, hfits⟩ policy hpolicy
    obtain ⟨text, htext⟩ := hreadable policy hpolicy
    exact ⟨text, htext, hfits policy hpolicy text htext⟩

end

/-! ## Comparisons -/

section
variable {timing : Timing} {runs : List Run} {table : Table} {baseline : String} {row base : Row}

/-- What a row holds outside the derived columns is a count. -/
theorem exists_count?_of_mem_names (h : (Table.ofRuns timing runs).value = .ok table)
    (hrow : row ∈ table.rows) {name : String} (hname : name ∉ derivedNames)
    (hmem : name ∈ row.values.names) : ∃ n, row.count? name = some n := by
  rw [(Table.value_ofRuns_eq_ok_iff.1 h).2] at hrow
  obtain ⟨run, -, rfl⟩ := mem_rowsOf.1 hrow
  rw [NameMap.mem_names_iff, ← Row.get?, Run.get?_row_of_notMem hname, Option.isSome_map,
    Option.isSome_iff_exists] at hmem
  obtain ⟨n, hn⟩ := hmem
  refine ⟨n, Row.count?_eq_some_iff.2 ?_⟩
  rw [Run.get?_row_of_notMem hname, hn, Option.map_some]

/-- With a baseline that fits there is a comparison, and nothing is left out. -/
theorem exists_covers_of_fitsBaseline {outcome : Option Comparison}
    (htable : (Table.ofRuns timing runs).value = .ok table)
    (hcompare : (Comparison.ofTable table baseline).value = .ok outcome)
    (hbase : table.row? baseline = some base) (hfits : base.FitsBaseline) :
    ∃ comparison, outcome = some comparison ∧ comparison.Covers table baseline := by
  obtain ⟨b, hb⟩ := hfits.cycles
  obtain ⟨c, hc⟩ := hfits.conflicts
  cases outcome with
  | none =>
    have hempty := (Comparison.outcome_eq_none_iff hbase hcompare).1 rfl
    rw [← Row.count?_eq_some_iff, Row.count?_of_isEmpty hempty] at hc
    cases hc
  | some comparison =>
    refine ⟨comparison, rfl, ?_⟩
    have hentry {row : Row} (hrow : row ∈ table.rows) (hother : row.policy ≠ baseline) :
        comparison.get? row.policy = compareRow (some b) (some c) row := by
      rw [Comparison.get?_of_outcome hbase hcompare, if_neg hother, Table.row?_of_mem hrow,
        Option.bind_some, value_baselineCycles_eq_some_iff.2 hb,
        value_baselineConflicts_eq_some_iff.2 hc]
    constructor
    case cycles =>
      intro row hrow hother hmem
      obtain ⟨v, hv⟩ := exists_count?_of_mem_names htable hrow (by decide) hmem
      obtain ⟨entry, hcompared, hvalue⟩ := exists_compareRow_of_cycles hv
      exact ⟨entry, _, (hentry hrow hother).trans hcompared, hvalue⟩
    case conflicts =>
      intro row hrow hother hmem
      obtain ⟨v, hv⟩ := exists_count?_of_mem_names htable hrow (by decide) hmem
      obtain ⟨entry, hcompared, hvalue⟩ := exists_compareRow_of_conflicts hv
      exact ⟨entry, _, (hentry hrow hother).trans hcompared, hvalue⟩

end

/-! ## Analyses -/

variable {config : Config} (readText : Path → Except FileError String)

/-- What comes after the runs makes no warning exactly if the rows are complete
    and the baseline fits. -/
theorem quiet_analyzeRuns_iff {runs : List Run} {a : Analysis} {base : Row}
    (hraw : ∀ run ∈ runs, run.RawOnly) (ha : (analyzeRuns config runs).value = .ok a)
    (hbase : a.table.row? config.baseline = some base) :
    (analyzeRuns config runs).Quiet ↔
      (∀ row ∈ a.table.rows, row.Complete) ∧ base.FitsBaseline := by
  obtain ⟨htable, hcompare⟩ := value_analyzeRuns_eq_ok_iff.1 ha
  rw [← Table.quiet_ofRuns_iff hraw htable, ← Comparison.quiet_ofTable_iff hbase, analyzeRuns,
    Logged.quiet_bind_iff, and_iff_right (Logged.quiet_report_iff.2 rfl), Logged.quiet_bind_iff,
    htable]
  dsimp only
  rw [Logged.quiet_bind_iff, hcompare]
  exact and_congr_right fun _ => and_iff_left (Logged.quiet_pure _)

theorem quiet_analyze_iff {a : Analysis}
    (ha : (analyze config readText SimLog.read).value = .ok a) :
    (analyze config readText SimLog.read).Quiet ↔ Lossless config readText a.table := by
  obtain ⟨hvalid, hruns⟩ := outcome_of_analyze ha
  obtain ⟨-, -, -, hbaseline, -⟩ := Config.validate_eq_ok_iff.1 hvalid
  have hbase := row?_of_analyze ha hbaseline
  rw [analyze, hvalid]
  dsimp only
  rw [Logged.quiet_bind_iff, quiet_collect_read_iff, value_collect, quiet_analyzeRuns_iff
    (rawOnly_of_mem_runs readText) (value_analyzeRuns_eq_ok_iff.2 hruns) hbase]
  constructor
  · rintro ⟨⟨hreadable, hnumbers⟩, hcomplete, hfits⟩
    exact ⟨hreadable, hnumbers, hcomplete, _, hbase, hfits⟩
  · rintro ⟨hreadable, hnumbers, hcomplete, base, hsame, hfits⟩
    rw [hbase] at hsame
    cases hsame
    exact ⟨⟨hreadable, hnumbers⟩, hcomplete, hfits⟩

/-- **An analysis makes no warning exactly if nothing is lost.**  Then there is a
    comparison, and it leaves out no policy with counts. -/
theorem quiet_analyze_iff_lossless (hvalid : config.validate = .ok ()) :
    ∃ a, (analyze config readText SimLog.read).value = .ok a ∧
      ((analyze config readText SimLog.read).Quiet ↔ Lossless config readText a.table) ∧
      ((analyze config readText SimLog.read).Quiet →
        ∃ comparison, a.comparison = some comparison ∧
          comparison.Covers a.table config.baseline) := by
  obtain ⟨a, ha⟩ := exists_value_analyze_eq_ok config readText SimLog.read hvalid
  have hlossless := quiet_analyze_iff readText ha
  refine ⟨a, ha, hlossless, fun hquiet => ?_⟩
  obtain ⟨-, htable, hcompare⟩ := outcome_of_analyze ha
  obtain ⟨base, hbase, hfits⟩ := (hlossless.1 hquiet).baseline
  exact exists_covers_of_fitsBaseline htable hcompare hbase hfits

/-- The default settings, and the same log for every policy: that the baseline has
    no conflicts is no loss. -/
theorem lossless_of_equal_logs :
    let readText : Path → Except FileError String :=
      fun _ => .ok "total_cycles: 8\ntotal_conflicts: 0"
    ({} : Config).validate = .ok () ∧
    ∃ a, (analyze {} readText SimLog.read).value = .ok a ∧ Lossless {} readText a.table ∧
      ∃ comparison, a.comparison = some comparison ∧ comparison.Covers a.table "baseline" := by
  intro readText
  obtain ⟨a, ha, hiff, hcovers⟩ := quiet_analyze_iff_lossless readText Config.validate_default
  have hquiet : (analyze {} readText SimLog.read).Quiet := by decide +kernel
  exact ⟨Config.validate_default, a, ha, hiff.1 hquiet, hcovers hquiet⟩

end PolicyBench
