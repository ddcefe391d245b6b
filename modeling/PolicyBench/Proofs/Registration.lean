/-
  PolicyBench — the order of the policies is only presentation.

  The policies of a configuration can be listed in any order.  The rows of the
  table follow that order, and the entries of the comparison follow the rows; but
  the columns, the row of each policy and its entry stay what they are.

  * `rawColumns_perm`, `derivedColumns_perm`: the columns do not depend on the
    order of the runs;
  * `Config.validate_perm`: neither does what makes a configuration valid;
  * `Analysis.SameByPolicy`: two outcomes hold the same, policy by policy;
  * `Analysis.Follows`: rows and entries are in the order of a list of policies;
  * `analyze_perm`: what becomes of an analysis when its policies are reordered.
-/
import PolicyBench.Proofs.Analysis
import PolicyBench.Proofs.Table.Schema

namespace PolicyBench

/-! ## Columns -/

section
variable {runs runs' : List Run} {timing : Timing}

/-- The names that occur are put in order, wherever they come from. -/
theorem rawColumns_perm (h : runs.Perm runs') : rawColumns runs = rawColumns runs' := by
  refine eq_of_increasing (rawColumns_increasing runs) (rawColumns_increasing runs') ?_
  intro name
  simp only [mem_rawColumns, h.mem_iff]

theorem derivedColumns_perm {rows rows' : List Row} (h : rows.Perm rows') :
    derivedColumns rows = derivedColumns rows' :=
  List.filter_congr fun _ _ => h.any_eq

theorem rowsOf_perm (h : runs.Perm runs') :
    (rowsOf timing runs).value.Perm (rowsOf timing runs').value := by
  rw [value_rowsOf, value_rowsOf]
  exact h.map _

theorem Table.columns_perm {table table' : Table} (h : runs.Perm runs')
    (htable : (Table.ofRuns timing runs).value = .ok table)
    (htable' : (Table.ofRuns timing runs').value = .ok table') :
    table.columns = table'.columns := by
  rw [(value_ofRuns_eq_ok_iff.1 htable).1, (value_ofRuns_eq_ok_iff.1 htable').1,
    rawColumns_perm h, derivedColumns_perm (rowsOf_perm h)]

end

/-! ## Outcomes -/

/-- The same columns, and the same row and the same entry for every policy. -/
structure Analysis.SameByPolicy (a b : Analysis) : Prop where
  columns : a.table.columns = b.table.columns
  rows : ∀ policy, a.table.row? policy = b.table.row? policy
  absent_iff : a.comparison = none ↔ b.comparison = none
  entries : ∀ policy, a.comparison.bind (·.get? policy) = b.comparison.bind (·.get? policy)

/-- The rows are those of the policies, in their order, and the entries are in the
    order of the rows. -/
structure Analysis.Follows (a : Analysis) (policies : List String) : Prop where
  rows : a.table.rows.map (·.policy) = policies
  entries : ∀ comparison, a.comparison = some comparison →
    (comparison.entries.map (·.policy)).Sublist policies

variable {config : Config} {policies : List String}

/-- A valid configuration stays valid when its policies are reordered. -/
theorem Config.validate_perm (h : config.policies.Perm policies)
    (hvalid : config.validate = .ok ()) : { config with policies }.validate = .ok () := by
  rw [validate_eq_ok_iff] at hvalid ⊢
  obtain ⟨hne, hnames, hdistinct, hbaseline, htiming⟩ := hvalid
  refine ⟨fun hnil => hne ?_, fun policy hpolicy => hnames policy (h.mem_iff.2 hpolicy),
    h.nodup_iff.1 hdistinct, h.mem_iff.1 hbaseline, htiming⟩
  exact List.Perm.eq_nil (hnil ▸ h)

section
variable {readText : Path → Except FileError String} {reader : LogReader} {a b : Analysis}

theorem follows_of_analyze (ha : (analyze config readText reader).value = .ok a) :
    a.Follows config.policies := by
  have hrows := map_policy_rows_of_analyze ha
  obtain ⟨-, -, hcompare⟩ := outcome_of_analyze ha
  constructor
  case rows => exact hrows
  case entries =>
    intro comparison hcomparison
    rw [hcomparison] at hcompare
    rw [← hrows]
    exact Comparison.policies_sublist_of_outcome hcompare

theorem sameByPolicy_of_analyze (h : config.policies.Perm policies)
    (ha : (analyze config readText reader).value = .ok a)
    (hb : (analyze { config with policies } readText reader).value = .ok b) :
    a.SameByPolicy b := by
  obtain ⟨hvalid, htableA, hcompareA⟩ := outcome_of_analyze ha
  obtain ⟨-, htableB, hcompareB⟩ := outcome_of_analyze hb
  obtain ⟨-, -, -, hbaseline, -⟩ := Config.validate_eq_ok_iff.1 hvalid
  have hrows (policy : String) : a.table.row? policy = b.table.row? policy := by
    rw [row?_of_analyze_eq ha, row?_of_analyze_eq hb]
    simp only [h.mem_iff]
    rfl
  have hbaseA := row?_of_analyze ha hbaseline
  have hbaseB := (hrows config.baseline).symm.trans hbaseA
  obtain ⟨habsent, hentries⟩ := Comparison.alike_of_row? hbaseA hbaseB hcompareA hcompareB
  constructor
  case columns => exact Table.columns_perm (h.map _) htableA htableB
  case rows => exact hrows
  case absent_iff => exact habsent
  case entries => exact fun policy => hentries policy (hrows policy)

end

/-- **The order of the policies is only presentation.**  Analysed in any other
    order, the policies have the same columns, rows and entries; rows and entries
    come in the order in which the policies are listed. -/
theorem analyze_perm (hvalid : config.validate = .ok ()) (h : config.policies.Perm policies)
    (readText : Path → Except FileError String) (reader : LogReader) :
    ∃ a b, (analyze config readText reader).value = .ok a ∧
      (analyze { config with policies } readText reader).value = .ok b ∧
      a.SameByPolicy b ∧ a.Follows config.policies ∧ b.Follows policies := by
  obtain ⟨a, ha⟩ := exists_value_analyze_eq_ok config readText reader hvalid
  obtain ⟨b, hb⟩ := exists_value_analyze_eq_ok _ readText reader (Config.validate_perm h hvalid)
  exact ⟨a, b, ha, hb, sameByPolicy_of_analyze h ha hb, follows_of_analyze ha,
    follows_of_analyze hb⟩

/-- With the default settings: logs of the baseline and of one other policy. -/
def twoLogs (path : Path) : Except FileError String :=
  if path = ({} : Config).logPath "baseline" then .ok "total_cycles: 8\ntotal_conflicts: 2"
  else if path = ({} : Config).logPath "contention_aware" then .ok "total_cycles: 6"
  else .error .notFound

/-- Listed last, the baseline is still what the others are compared with. -/
theorem analyze_perm_baseline_last :
    let policies := ["contention_aware", "bank_partitioning", "baseline"]
    ({} : Config).validate = .ok () ∧ ({} : Config).policies.Perm policies ∧
    ∃ a b, (analyze {} twoLogs SimLog.read).value = .ok a ∧
      (analyze { ({} : Config) with policies } twoLogs SimLog.read).value = .ok b ∧
      a.SameByPolicy b ∧ a.Follows ({} : Config).policies ∧ b.Follows policies ∧
      b.table.columns =
        [totalConflicts, totalCycles, totalTimeNs, totalTimeSeconds, throughput] ∧
      b.comparison.map (·.entries.map (·.policy)) = some ["contention_aware"] := by
  intro policies
  have hperm : ({} : Config).policies.Perm policies := by decide
  obtain ⟨a, b, ha, hb, hsame, hfollowsA, hfollowsB⟩ :=
    analyze_perm Config.validate_default hperm twoLogs SimLog.read
  have houtcome : (analyze { ({} : Config) with policies } twoLogs SimLog.read).value.toOption.map
      (fun b => (b.table.columns, b.comparison.map (·.entries.map (·.policy)))) =
      some ([totalConflicts, totalCycles, totalTimeNs, totalTimeSeconds, throughput],
        some ["contention_aware"]) := by decide +kernel
  rw [hb] at houtcome
  obtain ⟨hcolumns, hentries⟩ := Prod.mk.inj (Option.some.inj houtcome)
  exact ⟨Config.validate_default, hperm, a, b, ha, hb, hsame, hfollowsA, hfollowsB, hcolumns,
    hentries⟩

end PolicyBench
