/-
  PolicyBench — the entries of a comparison.

  * `value_compareRows`: the entries are those of the rows other than the
    baseline, in the order of the table;
  * `value_ofTable_of_row?`, `value_ofTable_eq_error_iff`: the outcome of a
    comparison, and when there is none;
  * `outcome_eq_none_iff`, `get?_of_outcome`: what is compared depends on the row
    of the baseline, and an entry on that row and the one of its policy;
  * `alike_of_row?`: so tables that share these rows are compared alike;
  * `policies_sublist_of_outcome`: the entries are in the order of the table;
  * `get?_eq_none_of_isEmpty`: a policy without values is never compared;
  * `Row.FitsBaseline`, `quiet_ofTable_iff`: a comparison makes no warning exactly
    if the baseline has what others are compared with.
-/
import PolicyBench.Comparison
import PolicyBench.Proofs.Logged
import PolicyBench.Proofs.NameMap

namespace PolicyBench

variable {cycles conflicts : Option UInt64} {row : Row}

/-! ## Entries -/

theorem policy_of_compareRow {entry : ComparisonEntry}
    (h : compareRow cycles conflicts row = some entry) : entry.policy = row.policy := by
  unfold compareRow at h
  dsimp only at h
  split at h
  · cases h; rfl
  · cases h

theorem Row.count?_eq_some_iff {column : String} {n : UInt64} :
    row.count? column = some n ↔ row.get? column = some (.count n) := by
  rw [count?, Option.bind_eq_some_iff]
  constructor
  · rintro ⟨v, hv, hn⟩
    cases v with
    | count m => cases hn; exact hv
    | measure x => cases hn
  · intro h
    exact ⟨_, h, rfl⟩

theorem Row.count?_of_isEmpty (h : row.isEmpty = true) (column : String) :
    row.count? column = none := by
  rw [Row.count?, Row.get?, NameMap.isEmpty_iff.1 h, Option.bind_none]

theorem compareRow_of_isEmpty (h : row.isEmpty = true) :
    compareRow cycles conflicts row = none := by
  have hnone (f : UInt64 → UInt64 → Binary64) (baseline : Option UInt64) :
      percentage f baseline none = none := by cases baseline <;> rfl
  simp [compareRow, Row.count?_of_isEmpty h, hnone]

/-- Counts of cycles on both sides are compared. -/
theorem exists_compareRow_of_cycles {b v : UInt64} (h : row.count? totalCycles = some v) :
    ∃ entry, compareRow (some b) conflicts row = some entry ∧
      entry.cycleImprovement = some (cycleImprovement b v) := by
  have himprovement : percentage cycleImprovement (some b) (row.count? totalCycles) =
      some (cycleImprovement b v) := by rw [h]; rfl
  unfold compareRow
  dsimp only
  rw [himprovement]
  exact ⟨_, rfl, rfl⟩

/-- Counts of conflicts on both sides are compared. -/
theorem exists_compareRow_of_conflicts {b v : UInt64} (h : row.count? totalConflicts = some v) :
    ∃ entry, compareRow cycles (some b) row = some entry ∧
      entry.conflictReduction = some (conflictReduction b v) := by
  have hreduction : percentage conflictReduction (some b) (row.count? totalConflicts) =
      some (conflictReduction b v) := by rw [h]; rfl
  unfold compareRow
  dsimp only
  rw [hreduction, Option.isSome_some, Bool.or_true]
  exact ⟨_, rfl, rfl⟩

/-- The entries are those of the rows other than the baseline. -/
theorem value_compareRows (baseline : String) (rows : List Row) :
    (compareRows baseline cycles conflicts rows).value =
      (rows.filter (·.policy ≠ baseline)).filterMap (compareRow cycles conflicts) := by
  induction rows with
  | nil => rfl
  | cons row rest ih =>
    rw [compareRows]
    by_cases hrow : row.policy = baseline
    · rw [if_pos hrow, ih, List.filter_cons_of_neg (by simpa using hrow)]
    · rw [if_neg hrow, List.filter_cons_of_pos (by simpa using hrow)]
      cases hentry : compareRow cycles conflicts row with
      | none => rw [List.filterMap_cons_none hentry, ← ih]; rfl
      | some entry => rw [List.filterMap_cons_some hentry, ← ih]; rfl

/-- The entry of a policy is that of its row. -/
theorem find?_filterMap_compareRow {rows : List Row}
    (distinct : rows.Pairwise fun r s => r.policy ≠ s.policy) (policy : String) :
    (rows.filterMap (compareRow cycles conflicts)).find? (·.policy == policy) =
      (rows.find? (·.policy == policy)).bind (compareRow cycles conflicts) := by
  induction rows with
  | nil => rfl
  | cons row rest ih =>
    obtain ⟨hrow, hrest⟩ := List.pairwise_cons.1 distinct
    by_cases hpolicy : row.policy = policy
    · rw [List.find?_cons_of_pos (by simpa using hpolicy), Option.bind_some]
      cases hentry : compareRow cycles conflicts row with
      | none =>
        -- no later row has the policy
        have hnone : rest.find? (·.policy == policy) = none := by
          rw [List.find?_eq_none]
          intro other hother h
          exact hrow other hother (hpolicy.trans (beq_iff_eq.1 h).symm)
        rw [List.filterMap_cons_none hentry, ih hrest, hnone, Option.bind_none]
      | some entry =>
        have hsame : entry.policy = policy := (policy_of_compareRow hentry).trans hpolicy
        rw [List.filterMap_cons_some hentry, List.find?_cons_of_pos (by simpa using hsame)]
    · rw [List.find?_cons_of_neg (by simpa using hpolicy), ← ih hrest]
      cases hentry : compareRow cycles conflicts row with
      | none => rw [List.filterMap_cons_none hentry]
      | some entry =>
        have hother : entry.policy ≠ policy := by rwa [policy_of_compareRow hentry]
        rw [List.filterMap_cons_some hentry, List.find?_cons_of_neg (by simpa using hother)]

/-- Leaving out rows that cannot be compared keeps the order of the others. -/
theorem map_policy_filterMap_compareRow (rows : List Row) :
    ((rows.filterMap (compareRow cycles conflicts)).map (·.policy)).Sublist
      (rows.map (·.policy)) := by
  induction rows with
  | nil => exact List.Sublist.refl []
  | cons row rest ih =>
    cases hentry : compareRow cycles conflicts row with
    | none =>
      rw [List.filterMap_cons_none hentry]
      exact ih.cons _
    | some entry =>
      rw [List.filterMap_cons_some hentry, List.map_cons, policy_of_compareRow hentry]
      exact ih.cons_cons _

/-- Without the rows of the baseline every other policy is found as before. -/
theorem find?_filter_policy_ne (baseline : String) (rows : List Row) (policy : String) :
    (rows.filter (·.policy ≠ baseline)).find? (·.policy == policy) =
      if policy = baseline then none else rows.find? (·.policy == policy) := by
  rw [List.find?_filter]
  split
  · next hpolicy => exact List.find?_eq_none.2 (by simp [hpolicy])
  · next hpolicy =>
    congr 1
    funext row
    by_cases hrow : row.policy = policy <;> simp [hrow, hpolicy]

/-! ## Outcome -/

namespace Comparison

variable {table : Table} {baseline : String}

/-- What a comparison gives if the baseline has a row. -/
theorem value_ofTable_of_row? (h : table.row? baseline = some row) :
    (ofTable table baseline).value = .ok (if row.isEmpty then none
      else some ⟨baseline, (compareRows baseline (baselineCycles row).value
        (baselineConflicts row).value table.rows).value⟩) := by
  unfold ofTable
  rw [h]
  dsimp only
  split <;> rfl

/-- A comparison fails exactly if the baseline has no row. -/
theorem value_ofTable_eq_error_iff {problem : ComparisonError} :
    (ofTable table baseline).value = .error problem ↔
      table.row? baseline = none ∧ problem = .noBaseline baseline := by
  cases h : table.row? baseline with
  | none =>
    unfold ofTable
    rw [h]
    simp [eq_comm]
  | some row =>
    rw [value_ofTable_of_row? h]
    simp

/-- Nothing is compared exactly if the row of the baseline is empty. -/
theorem outcome_eq_none_iff {outcome : Option Comparison} (hbase : table.row? baseline = some row)
    (h : (ofTable table baseline).value = .ok outcome) : outcome = none ↔ row.isEmpty = true := by
  rw [value_ofTable_of_row? hbase, Except.ok.injEq] at h
  rw [← h]
  split
  · next hempty => simp only [hempty]
  · next hempty => simp only [hempty, reduceCtorEq]

/-- An entry depends on the row of the baseline and that of the policy. -/
theorem get?_of_outcome {comparison : Comparison} (hbase : table.row? baseline = some row)
    (h : (ofTable table baseline).value = .ok (some comparison)) (policy : String) :
    comparison.get? policy = if policy = baseline then none else
      (table.row? policy).bind
        (compareRow (baselineCycles row).value (baselineConflicts row).value) := by
  rw [value_ofTable_of_row? hbase, Except.ok.injEq] at h
  split at h
  · cases h
  · cases h
    rw [get?, value_compareRows,
      find?_filterMap_compareRow (table.distinct.sublist List.filter_sublist),
      find?_filter_policy_ne, apply_ite (Option.bind · _), Option.bind_none]
    rfl

/-- The entries are in the order of the rows. -/
theorem policies_sublist_of_outcome {comparison : Comparison}
    (h : (ofTable table baseline).value = .ok (some comparison)) :
    (comparison.entries.map (·.policy)).Sublist (table.rows.map (·.policy)) := by
  cases hbase : table.row? baseline with
  | none =>
    rw [value_ofTable_eq_error_iff.2 ⟨hbase, rfl⟩] at h
    cases h
  | some row =>
    rw [value_ofTable_of_row? hbase, Except.ok.injEq] at h
    split at h
    · cases h
    · cases h
      rw [value_compareRows]
      exact (map_policy_filterMap_compareRow _).trans (List.filter_sublist.map _)

/-- Two tables with the same row for the baseline are compared alike: in both there
    is an outcome or in none, and a policy that has the same row in both has the
    same entry. -/
theorem alike_of_row? {other : Table} {outcome outcome' : Option Comparison}
    (hbase : table.row? baseline = some row) (hbase' : other.row? baseline = some row)
    (h : (ofTable table baseline).value = .ok outcome)
    (h' : (ofTable other baseline).value = .ok outcome') :
    (outcome = none ↔ outcome' = none) ∧
      ∀ policy, table.row? policy = other.row? policy →
        outcome.bind (·.get? policy) = outcome'.bind (·.get? policy) := by
  have habsent : outcome = none ↔ outcome' = none := by
    rw [outcome_eq_none_iff hbase h, outcome_eq_none_iff hbase' h']
  refine ⟨habsent, fun policy hrow => ?_⟩
  cases outcome with
  | none => rw [habsent.1 rfl]
  | some c =>
    obtain ⟨d, rfl⟩ := Option.ne_none_iff_exists'.1 (mt habsent.2 nofun)
    rw [Option.bind_some, Option.bind_some, get?_of_outcome hbase h, get?_of_outcome hbase' h',
      hrow]

/-- A policy without values has no entry. -/
theorem get?_eq_none_of_isEmpty {comparison : Comparison}
    (h : (ofTable table baseline).value = .ok (some comparison)) (hrow : row ∈ table.rows)
    (hempty : row.isEmpty = true) : comparison.get? row.policy = none := by
  cases hbase : table.row? baseline with
  | none =>
    have herror := value_ofTable_eq_error_iff.2 ⟨hbase, rfl⟩
    rw [herror] at h
    cases h
  | some baseRow =>
    rw [get?_of_outcome hbase h, Table.row?_of_mem hrow, Option.bind_some,
      compareRow_of_isEmpty hempty, ite_self]

end Comparison

/-! ## Warnings -/

/-- The row has what others are compared with. -/
structure Row.FitsBaseline (row : Row) : Prop where
  cycles : ∃ n, row.get? totalCycles = some (.count n) ∧ n ≠ 0
  conflicts : ∃ n, row.get? totalConflicts = some (.count n)

theorem value_baselineCycles_eq_some_iff {n : UInt64} :
    (baselineCycles row).value = some n ↔ row.get? totalCycles = some (.count n) ∧ n ≠ 0 := by
  rw [← Row.count?_eq_some_iff]
  unfold baselineCycles
  cases row.count? totalCycles with
  | none => exact iff_of_false nofun nofun
  | some cycles =>
    dsimp only
    split
    · next hzero =>
      refine iff_of_false nofun ?_
      rintro ⟨heq, hne⟩
      exact hne ((Option.some.inj heq).symm.trans hzero)
    · next hzero =>
      rw [Logged.value_pure]
      refine (and_iff_left_of_imp ?_).symm
      rintro ⟨rfl⟩
      exact hzero

theorem value_baselineConflicts_eq_some_iff {n : UInt64} :
    (baselineConflicts row).value = some n ↔ row.get? totalConflicts = some (.count n) := by
  rw [← Row.count?_eq_some_iff]
  unfold baselineConflicts
  cases row.count? totalConflicts with
  | none => exact iff_of_false nofun nofun
  | some conflicts => exact Iff.rfl

/-- Cycles that cannot be compared with are reported. -/
theorem quiet_baselineCycles_iff :
    (baselineCycles row).Quiet ↔ ∃ n, (baselineCycles row).value = some n := by
  unfold baselineCycles
  cases row.count? totalCycles with
  | none => exact iff_of_false (Logged.not_quiet_report_bind rfl) nofun
  | some cycles =>
    dsimp only
    split
    · exact iff_of_false (Logged.not_quiet_report_bind rfl) nofun
    · exact iff_of_true (Logged.quiet_pure _) ⟨_, rfl⟩

/-- Conflicts that are missing are reported. -/
theorem quiet_baselineConflicts_iff :
    (baselineConflicts row).Quiet ↔ ∃ n, (baselineConflicts row).value = some n := by
  unfold baselineConflicts
  cases row.count? totalConflicts with
  | none => exact iff_of_false (Logged.not_quiet_report_bind rfl) nofun
  | some conflicts => exact iff_of_true (Logged.quiet_pure _) ⟨_, rfl⟩

/-- That a policy cannot be compared is no warning. -/
theorem quiet_compareRows (baseline : String) (rows : List Row) :
    (compareRows baseline cycles conflicts rows).Quiet := by
  induction rows with
  | nil => exact Logged.quiet_pure _
  | cons row rest ih =>
    rw [compareRows]
    split
    · exact ih
    · cases compareRow cycles conflicts row with
      | none => exact Logged.quiet_bind_iff.2 ⟨Logged.quiet_report_iff.2 rfl, ih⟩
      | some entry => exact Logged.quiet_bind_iff.2 ⟨ih, Logged.quiet_pure _⟩

/-- **A comparison makes no warning exactly if the baseline fits.** -/
theorem Comparison.quiet_ofTable_iff {table : Table} {baseline : String}
    (hbase : table.row? baseline = some row) :
    (ofTable table baseline).Quiet ↔ row.FitsBaseline := by
  have hfits : row.FitsBaseline ↔ (baselineCycles row).Quiet ∧ (baselineConflicts row).Quiet := by
    simp only [quiet_baselineCycles_iff, quiet_baselineConflicts_iff,
      value_baselineCycles_eq_some_iff, value_baselineConflicts_eq_some_iff]
    exact ⟨fun h => ⟨h.cycles, h.conflicts⟩, fun h => ⟨h.1, h.2⟩⟩
  unfold ofTable
  rw [hbase]
  dsimp only
  split
  · next hempty =>
    refine iff_of_false (Logged.not_quiet_report_bind rfl) fun hfits => ?_
    obtain ⟨n, hn⟩ := hfits.conflicts
    rw [← Row.count?_eq_some_iff, Row.count?_of_isEmpty hempty] at hn
    cases hn
  · rw [hfits, Logged.quiet_bind_iff, Logged.quiet_bind_iff, Logged.quiet_bind_iff]
    refine and_congr_right fun _ => and_iff_left ?_
    exact ⟨quiet_compareRows baseline table.rows, Logged.quiet_pure _⟩

end PolicyBench
