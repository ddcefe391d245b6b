/-
  PolicyBench — policies do not see each other.

  Two analyses of one configuration, whose logs differ at one policy only, agree
  on every other policy.  The columns may differ, the values in the rows do not;
  and as long as the policy is not the baseline, it makes no difference to the
  comparison of any other.

  * `Analysis.AgreeExcept`, `Analysis.CompareAlikeExcept`: two outcomes agree on
    all policies but one;
  * `agreeExcept_of_analyze`, `compareAlikeExcept_of_analyze`: the outcomes of two
    analyses do;
  * `isolated_policies`: what a log can change.
-/
import PolicyBench.Proofs.Analysis

namespace PolicyBench

/-! ## Outcomes that agree -/

/-- Both tables list the same policies, and only the row of `p` may differ. -/
structure Analysis.AgreeExcept (p : String) (a b : Analysis) : Prop where
  policies : a.table.rows.map (·.policy) = b.table.rows.map (·.policy)
  rows : ∀ q, q ≠ p → a.table.row? q = b.table.row? q

/-- Both are compared or none is, and only the entry of `p` may differ. -/
structure Analysis.CompareAlikeExcept (p : String) (a b : Analysis) : Prop where
  absent_iff : a.comparison = none ↔ b.comparison = none
  entries : ∀ q, q ≠ p → a.comparison.bind (·.get? q) = b.comparison.bind (·.get? q)

/-! ## Rows and entries -/

section
variable {config : Config} {readText readText' : Path → Except FileError String}
variable {reader : LogReader} {a b : Analysis} {p : String}

/-- Only the log of a policy has a say in its run. -/
theorem runOf_congr {logPath : String → Path} {policy : String}
    (h : readText (logPath policy) = readText' (logPath policy)) :
    runOf reader readText logPath policy = runOf reader readText' logPath policy := by
  rw [runOf, runOf, h]

variable (hsame : ∀ q ∈ config.policies, q ≠ p →
  readText (config.logPath q) = readText' (config.logPath q))
variable (ha : (analyze config readText reader).value = .ok a)
variable (hb : (analyze config readText' reader).value = .ok b)
include hsame ha hb

theorem agreeExcept_of_analyze : a.AgreeExcept p b := by
  constructor
  case policies => rw [map_policy_rows_of_analyze ha, map_policy_rows_of_analyze hb]
  case rows =>
    intro q hq
    rw [row?_of_analyze_eq ha, row?_of_analyze_eq hb]
    split
    · next hmem => rw [runOf_congr (hsame q hmem hq)]
    · rfl

/-- Whether anything is compared is up to the row of the baseline, and each entry
    up to that row and the one of its policy: `p` has a say in neither. -/
theorem compareAlikeExcept_of_analyze (hp : p ≠ config.baseline) : a.CompareAlikeExcept p b := by
  obtain ⟨hvalid, -, hcompareA⟩ := outcome_of_analyze ha
  obtain ⟨-, -, hcompareB⟩ := outcome_of_analyze hb
  obtain ⟨-, -, -, hbaseline, -⟩ := Config.validate_eq_ok_iff.1 hvalid
  have hrows := (agreeExcept_of_analyze hsame ha hb).rows
  have hbaseA := row?_of_analyze ha hbaseline
  have hbaseB := hrows config.baseline hp.symm ▸ hbaseA
  obtain ⟨habsent, hentries⟩ := Comparison.alike_of_row? hbaseA hbaseB hcompareA hcompareB
  exact ⟨habsent, fun q hq => hentries q (hrows q hq)⟩

end

/-! ## Isolation -/

/-- **The log of a policy matters to that policy alone.**  Whatever stands in the
    log of `p`, or in its place, both analyses succeed, they list the same
    policies, and every other policy has the same row.  Unless `p` is the baseline
    the others are compared alike, too. -/
theorem isolated_policies {config : Config} {readText readText' : Path → Except FileError String}
    {p : String} (reader : LogReader) (hvalid : config.validate = .ok ())
    (hsame : ∀ q ∈ config.policies, q ≠ p →
      readText (config.logPath q) = readText' (config.logPath q)) :
    ∃ a b, (analyze config readText reader).value = .ok a ∧
      (analyze config readText' reader).value = .ok b ∧ a.AgreeExcept p b ∧
      (p ≠ config.baseline → a.CompareAlikeExcept p b) := by
  obtain ⟨a, ha⟩ := exists_value_analyze_eq_ok config readText reader hvalid
  obtain ⟨b, hb⟩ := exists_value_analyze_eq_ok config readText' reader hvalid
  exact ⟨a, b, ha, hb, agreeExcept_of_analyze hsame ha hb,
    compareAlikeExcept_of_analyze hsame ha hb⟩

/-- With the default settings: what is found in place of one log, while the others
    count eight cycles. -/
def contentionAwareLog (content : Except FileError String) (path : Path) :
    Except FileError String :=
  if path = ({} : Config).logPath "contention_aware" then content else .ok "total_cycles: 8"

/-- A log of conflicts in place of none adds a column, and nothing else to the rows
    and entries of the others. -/
theorem isolated_from_contentionAwareLog :
    let missing := contentionAwareLog (.error .notFound)
    let found := contentionAwareLog (.ok "total_conflicts: 3")
    ({} : Config).validate = .ok () ∧
    (∀ q ∈ ({} : Config).policies, q ≠ "contention_aware" →
      missing (({} : Config).logPath q) = found (({} : Config).logPath q)) ∧
    ∃ a b, (analyze {} missing SimLog.read).value = .ok a ∧
      (analyze {} found SimLog.read).value = .ok b ∧
      b.table.columns = totalConflicts :: a.table.columns ∧
      a.AgreeExcept "contention_aware" b ∧ a.CompareAlikeExcept "contention_aware" b := by
  intro missing found
  have hsame : ∀ q ∈ ({} : Config).policies, q ≠ "contention_aware" →
      missing (({} : Config).logPath q) = found (({} : Config).logPath q) := by
    intro q hq hne
    have hother : ∀ q ∈ ({} : Config).policies, q ≠ "contention_aware" →
        ({} : Config).logPath q ≠ ({} : Config).logPath "contention_aware" := by decide
    exact (if_neg (hother q hq hne)).trans (if_neg (hother q hq hne)).symm
  obtain ⟨a, b, ha, hb, hagree, halike⟩ :=
    isolated_policies SimLog.read Config.validate_default hsame
  have hcolumns : (analyze {} found SimLog.read).value.toOption.map (·.table.columns) =
      (analyze {} missing SimLog.read).value.toOption.map
        (totalConflicts :: ·.table.columns) := by decide +kernel
  rw [ha, hb] at hcolumns
  exact ⟨Config.validate_default, hsame, a, b, ha, hb, Option.some.inj hcolumns, hagree,
    halike (by decide)⟩

end PolicyBench
