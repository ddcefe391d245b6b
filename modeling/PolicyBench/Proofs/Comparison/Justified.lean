/-
  PolicyBench — what a comparison rests on.

  Every percentage of a comparison rests on two counts, one in the row of the
  baseline and one in the row of the policy.  Where both are there, so is the
  percentage, and what stands in other columns, or in these as a measure, makes no
  difference.  The baseline's cycles must not be zero.  Its conflicts may be: nothing
  is divided by them then.

  * `CyclesCompared`, `ConflictsCompared`: the two counts of a percentage, and
    `Comparable`: there are two;
  * `justified_of_compareRow`, `exists_compareRow_iff`: the entry of a row in these
    terms;
  * `Comparison.Justified`: a comparison has the entries and the percentages for
    which there are two counts, and no others;
  * `Table.SameCounts`: two tables agree in these counts, and
    `Comparison.eq_of_sameCounts`: then they are compared alike;
  * `Comparison.outcome_justified`: when there is no comparison, and that every one
    is justified.
-/
import PolicyBench.Proofs.Binary64.Order
import PolicyBench.Proofs.Comparison
import PolicyBench.Proofs.Except

namespace PolicyBench

variable {base row : Row}

/-! ## Percentages -/

/-- The `b` cycles of the baseline can be compared with the `v` cycles of a policy. -/
structure CyclesCompared (base row : Row) (b v : UInt64) : Prop where
  base : base.get? totalCycles = some (.count b)
  base_ne_zero : b ≠ 0
  row : row.get? totalCycles = some (.count v)

/-- The `b` conflicts of the baseline can be compared with the `v` conflicts of a
    policy. -/
structure ConflictsCompared (base row : Row) (b v : UInt64) : Prop where
  base : base.get? totalConflicts = some (.count b)
  row : row.get? totalConflicts = some (.count v)

/-- Something in the row can be compared with the row of the baseline. -/
def Comparable (base row : Row) : Prop :=
  (∃ b v, CyclesCompared base row b v) ∨ ∃ b v, ConflictsCompared base row b v

theorem percentage_eq_some_iff {f : UInt64 → UInt64 → Binary64} {baseline value : Option UInt64}
    {x : Binary64} : percentage f baseline value = some x ↔
      ∃ b v, (baseline = some b ∧ value = some v) ∧ x = f b v := by
  simp only [percentage, Option.bind_eq_some_iff, Option.map_eq_some_iff]
  constructor
  · rintro ⟨b, hb, v, hv, rfl⟩
    exact ⟨b, v, ⟨hb, hv⟩, rfl⟩
  · rintro ⟨b, v, ⟨hb, hv⟩, rfl⟩
    exact ⟨b, hb, v, hv, rfl⟩

theorem cyclesCompared_iff {b v : UInt64} : CyclesCompared base row b v ↔
    (baselineCycles base).value = some b ∧ row.count? totalCycles = some v := by
  rw [value_baselineCycles_eq_some_iff, Row.count?_eq_some_iff]
  exact ⟨fun h => ⟨⟨h.base, h.base_ne_zero⟩, h.row⟩, fun h => ⟨h.1.1, h.1.2, h.2⟩⟩

theorem conflictsCompared_iff {b v : UInt64} : ConflictsCompared base row b v ↔
    (baselineConflicts base).value = some b ∧ row.count? totalConflicts = some v := by
  rw [value_baselineConflicts_eq_some_iff, Row.count?_eq_some_iff]
  exact ⟨fun h => ⟨h.base, h.row⟩, fun h => ⟨h.1, h.2⟩⟩

/-- There is a percentage exactly if there are two counts. -/
theorem isSome_percentage_iff {f : UInt64 → UInt64 → Binary64} {baseline value : Option UInt64} :
    (percentage f baseline value).isSome = true ↔
      ∃ b v, baseline = some b ∧ value = some v := by
  rw [Option.isSome_iff_exists]
  simp only [percentage_eq_some_iff]
  constructor
  · rintro ⟨_, b, v, h, -⟩
    exact ⟨b, v, h⟩
  · rintro ⟨b, v, h⟩
    exact ⟨_, b, v, h, rfl⟩

/-! ## Entries -/

/-- The entry says how the row compares with that of the baseline. -/
structure ComparisonEntry.Justified (entry : ComparisonEntry) (base row : Row) : Prop where
  policy : entry.policy = row.policy
  cycles : ∀ x, entry.cycleImprovement = some x ↔
    ∃ b v, CyclesCompared base row b v ∧ x = PolicyBench.cycleImprovement b v
  conflicts : ∀ x, entry.conflictReduction = some x ↔
    ∃ b v, ConflictsCompared base row b v ∧ x = PolicyBench.conflictReduction b v

theorem justified_of_compareRow {entry : ComparisonEntry}
    (h : compareRow (baselineCycles base).value (baselineConflicts base).value row =
      some entry) : entry.Justified base row := by
  unfold compareRow at h
  dsimp only at h
  split at h
  · cases h
    constructor
    case policy => rfl
    case cycles =>
      intro x
      simp only [percentage_eq_some_iff, cyclesCompared_iff]
    case conflicts =>
      intro x
      simp only [percentage_eq_some_iff, conflictsCompared_iff]
  · cases h

/-- A row has an entry exactly if something can be compared. -/
theorem exists_compareRow_iff :
    (∃ entry, compareRow (baselineCycles base).value (baselineConflicts base).value row =
      some entry) ↔ Comparable base row := by
  have hcycles : (percentage cycleImprovement (baselineCycles base).value
      (row.count? totalCycles)).isSome = true ↔ ∃ b v, CyclesCompared base row b v := by
    simp only [isSome_percentage_iff, cyclesCompared_iff]
  have hconflicts : (percentage conflictReduction (baselineConflicts base).value
      (row.count? totalConflicts)).isSome = true ↔ ∃ b v, ConflictsCompared base row b v := by
    simp only [isSome_percentage_iff, conflictsCompared_iff]
  rw [Comparable, ← hcycles, ← hconflicts, ← Bool.or_eq_true]
  unfold compareRow
  dsimp only
  split
  · next h => simp [h]
  · next h => simp [h]

/-! ## Division -/

/-- An improvement is worked out by a division, and not by zero. -/
theorem CyclesCompared.divided {b v : UInt64} (h : CyclesCompared base row b v) :
    (Binary64.ofNat b.toNat).isZero = false ∧ cycleImprovement b v = percentBelow b v :=
  ⟨Binary64.isZero_ofNat_of_ne_zero fun hzero => h.base_ne_zero (UInt64.toNat_inj.1 hzero), rfl⟩

/-- So is a reduction, unless there is nothing to reduce. -/
theorem conflictReduction_divided (b v : UInt64) :
    (b = 0 ∧ conflictReduction b v = .zero false) ∨
      ((Binary64.ofNat b.toNat).isZero = false ∧ conflictReduction b v = percentBelow b v) := by
  by_cases h : b = 0
  · exact .inl ⟨h, if_pos h⟩
  · refine .inr ⟨Binary64.isZero_ofNat_of_ne_zero fun hzero => h ?_, if_neg h⟩
    exact UInt64.toNat_inj.1 hzero

/-! ## Other columns -/

/-- What is looked at in a row. -/
def Row.compared (row : Row) : String × Option UInt64 × Option UInt64 :=
  (row.policy, row.count? totalCycles, row.count? totalConflicts)

/-- The tables have the same policies in the same order, with the same counts of
    cycles and conflicts. -/
def Table.SameCounts (t u : Table) : Prop := t.rows.map Row.compared = u.rows.map Row.compared

instance (t u : Table) : Decidable (t.SameCounts u) :=
  inferInstanceAs (Decidable (t.rows.map Row.compared = u.rows.map Row.compared))

section
variable {row row' : Row} (h : row.compared = row'.compared)
include h

theorem count?_eq_of_compared : row.count? totalCycles = row'.count? totalCycles ∧
    row.count? totalConflicts = row'.count? totalConflicts := by
  rw [Row.compared, Row.compared, Prod.mk.injEq, Prod.mk.injEq] at h
  exact h.2

theorem policy_eq_of_compared : row.policy = row'.policy := congrArg Prod.fst h

theorem value_baselineCycles_congr :
    (baselineCycles row).value = (baselineCycles row').value := by
  refine Option.ext fun n => ?_
  rw [value_baselineCycles_eq_some_iff, value_baselineCycles_eq_some_iff,
    ← Row.count?_eq_some_iff, ← Row.count?_eq_some_iff, (count?_eq_of_compared h).1]

theorem value_baselineConflicts_congr :
    (baselineConflicts row).value = (baselineConflicts row').value := by
  refine Option.ext fun n => ?_
  rw [value_baselineConflicts_eq_some_iff, value_baselineConflicts_eq_some_iff,
    ← Row.count?_eq_some_iff, ← Row.count?_eq_some_iff, (count?_eq_of_compared h).2]

theorem compareRow_congr (cycles conflicts : Option UInt64) :
    compareRow cycles conflicts row = compareRow cycles conflicts row' := by
  obtain ⟨hcycles, hconflicts⟩ := count?_eq_of_compared h
  unfold compareRow
  rw [hcycles, hconflicts, policy_eq_of_compared h]

end

theorem compareRows_congr {rows rows' : List Row}
    (h : rows.map Row.compared = rows'.map Row.compared) (baseline : String)
    (cycles conflicts : Option UInt64) :
    compareRows baseline cycles conflicts rows = compareRows baseline cycles conflicts rows' := by
  induction rows generalizing rows' with
  | nil => rw [List.map_eq_nil_iff.1 h.symm]
  | cons row rest ih =>
    obtain ⟨row', rest', rfl, hrow, hrest⟩ := List.map_eq_cons_iff.1 h.symm
    rw [compareRows, compareRows, compareRow_congr hrow.symm, policy_eq_of_compared hrow.symm,
      ih hrest.symm]

theorem Table.SameCounts.row? {t u : Table} (h : t.SameCounts u) (policy : String) :
    (t.row? policy).map Row.compared = (u.row? policy).map Row.compared := by
  have hfind (table : Table) : (table.row? policy).map Row.compared =
      (table.rows.map Row.compared).find? (·.1 == policy) := by
    rw [List.find?_map]
    rfl
  rw [hfind, hfind, h]

namespace Comparison

variable {table other : Table} {baseline : String}

/-- Where there is a comparison, the baseline has a row. -/
theorem exists_row?_of_outcome {outcome : Option Comparison}
    (h : (ofTable table baseline).value = .ok outcome) :
    ∃ base, table.row? baseline = some base := by
  cases hbase : table.row? baseline with
  | none =>
    rw [value_ofTable_eq_error_iff.2 ⟨hbase, rfl⟩] at h
    cases h
  | some base => exact ⟨base, rfl⟩

/-- Tables with the same counts are compared alike. -/
theorem eq_of_sameCounts (hsame : other.SameCounts table) {comparison comparison' : Comparison}
    (h : (ofTable table baseline).value = .ok (some comparison))
    (h' : (ofTable other baseline).value = .ok (some comparison')) :
    comparison' = comparison := by
  obtain ⟨base, hbase⟩ := exists_row?_of_outcome h
  obtain ⟨base', hbase'⟩ := exists_row?_of_outcome h'
  have hcompared : base'.compared = base.compared := by
    have hrow := hsame.row? baseline
    rw [hbase, hbase'] at hrow
    exact Option.some.inj hrow
  rw [value_ofTable_of_row? hbase, Except.ok.injEq] at h
  rw [value_ofTable_of_row? hbase', Except.ok.injEq] at h'
  split at h
  · cases h
  · split at h'
    · cases h'
    · cases h
      cases h'
      rw [value_baselineCycles_congr hcompared, value_baselineConflicts_congr hcompared,
        compareRows_congr hsame]

/-! ## The comparison -/

/-- The comparison has the entries and the percentages for which there are two
    counts, and no others. -/
structure Justified (comparison : Comparison) (table : Table) (baseline : String) (base : Row) :
    Prop where
  named : comparison.baseline = baseline
  ordered : (comparison.entries.map (·.policy)).Sublist (table.rows.map (·.policy))
  nodup : (comparison.entries.map (·.policy)).Nodup
  exists_entry_iff : ∀ policy, (∃ entry, comparison.get? policy = some entry) ↔
    policy ≠ baseline ∧ ∃ row, table.row? policy = some row ∧ Comparable base row
  entry : ∀ policy entry, comparison.get? policy = some entry →
    ∃ row, table.row? policy = some row ∧ entry.Justified base row
  improvement_divided : ∀ policy entry x, comparison.get? policy = some entry →
    entry.cycleImprovement = some x →
      ∃ b v : UInt64, (Binary64.ofNat b.toNat).isZero = false ∧ x = percentBelow b v
  reduction_divided : ∀ policy entry x, comparison.get? policy = some entry →
    entry.conflictReduction = some x →
      (base.get? totalConflicts = some (.count 0) ∧ x = .zero false) ∨
        ∃ b v : UInt64, (Binary64.ofNat b.toNat).isZero = false ∧ x = percentBelow b v

theorem baseline_of_outcome {comparison : Comparison}
    (h : (ofTable table baseline).value = .ok (some comparison)) :
    comparison.baseline = baseline := by
  obtain ⟨base, hbase⟩ := exists_row?_of_outcome h
  rw [value_ofTable_of_row? hbase, Except.ok.injEq] at h
  split at h
  · cases h
  · cases h; rfl

theorem justified_of_outcome {base : Row} {comparison : Comparison}
    (hbase : table.row? baseline = some base)
    (h : (ofTable table baseline).value = .ok (some comparison)) :
    comparison.Justified table baseline base := by
  have hordered := policies_sublist_of_outcome h
  have hentry {policy : String} {entry : ComparisonEntry}
      (hget : comparison.get? policy = some entry) :
      ∃ row, table.row? policy = some row ∧ entry.Justified base row := by
    rw [get?_of_outcome hbase h] at hget
    split at hget
    · cases hget
    · obtain ⟨row, hrow, hcompared⟩ := Option.bind_eq_some_iff.1 hget
      exact ⟨row, hrow, justified_of_compareRow hcompared⟩
  constructor
  case named => exact baseline_of_outcome h
  case ordered => exact hordered
  case nodup => exact (List.pairwise_map.2 table.distinct).sublist hordered
  case exists_entry_iff =>
    intro policy
    have hget := get?_of_outcome hbase h policy
    by_cases hpolicy : policy = baseline
    · rw [if_pos hpolicy] at hget
      rw [hget]
      exact iff_of_false (fun ⟨_, hentry⟩ => nomatch hentry) fun h => h.1 hpolicy
    · rw [if_neg hpolicy] at hget
      simp only [hget, Option.bind_eq_some_iff, ← exists_compareRow_iff]
      constructor
      · rintro ⟨entry, row, hrow, hcompared⟩
        exact ⟨hpolicy, row, hrow, entry, hcompared⟩
      · rintro ⟨-, row, hrow, entry, hcompared⟩
        exact ⟨entry, row, hrow, hcompared⟩
  case entry => exact fun policy entry hget => hentry hget
  case improvement_divided =>
    intro policy entry x hget hx
    obtain ⟨row, -, hjustified⟩ := hentry hget
    obtain ⟨b, v, hcompared, hvalue⟩ := (hjustified.cycles x).1 hx
    exact ⟨b, v, hcompared.divided.1, hvalue.trans hcompared.divided.2⟩
  case reduction_divided =>
    intro policy entry x hget hx
    obtain ⟨row, -, hjustified⟩ := hentry hget
    obtain ⟨b, v, hcompared, hvalue⟩ := (hjustified.conflicts x).1 hx
    rcases conflictReduction_divided b v with ⟨hb, hzero⟩ | ⟨hzero, hdivided⟩
    · exact .inl ⟨hb ▸ hcompared.base, hvalue.trans hzero⟩
    · exact .inr ⟨b, v, hzero, hvalue.trans hdivided⟩

/-- **A comparison is what the rows justify.**  It fails exactly if the baseline has
    no row, and there is none exactly if that row is empty.  Else its entries and
    percentages are those for which there are two counts, and nothing but these
    counts makes a difference. -/
theorem outcome_justified (table : Table) (baseline : String) :
    ((∃ problem, (ofTable table baseline).value = .error problem) ↔
      table.row? baseline = none) ∧
    ((ofTable table baseline).value = .ok none ↔
      ∃ base, table.row? baseline = some base ∧ ∀ column, base.get? column = none) ∧
    ((∃ comparison, (ofTable table baseline).value = .ok (some comparison)) ↔
      ∃ base, table.row? baseline = some base ∧ ∃ column v, base.get? column = some v) ∧
    ∀ comparison, (ofTable table baseline).value = .ok (some comparison) →
      (∃ base, table.row? baseline = some base ∧ comparison.Justified table baseline base) ∧
      ∀ other comparison', other.SameCounts table →
        (ofTable other baseline).value = .ok (some comparison') → comparison' = comparison := by
  refine ⟨?_, ?_, ?_, fun comparison h => ⟨?_, fun other comparison' hsame h' => ?_⟩⟩
  · simp only [value_ofTable_eq_error_iff, exists_and_left, exists_eq, and_true]
  · constructor
    · intro h
      obtain ⟨base, hbase⟩ := exists_row?_of_outcome h
      exact ⟨base, hbase, NameMap.isEmpty_iff.1 ((outcome_eq_none_iff hbase h).1 rfl)⟩
    · rintro ⟨base, hbase, hempty⟩
      have hisEmpty : base.isEmpty = true := NameMap.isEmpty_iff.2 hempty
      rw [value_ofTable_of_row? hbase, if_pos hisEmpty]
  · constructor
    · rintro ⟨comparison, h⟩
      obtain ⟨base, hbase⟩ := exists_row?_of_outcome h
      have hfull : ¬ ∀ column, base.get? column = none := fun hempty =>
        nomatch (outcome_eq_none_iff hbase h).2 (NameMap.isEmpty_iff.2 hempty)
      obtain ⟨column, hcolumn⟩ := Classical.not_forall.1 hfull
      exact ⟨base, hbase, column, Option.ne_none_iff_exists'.1 hcolumn⟩
    · rintro ⟨base, hbase, column, v, hv⟩
      have hfull : ¬ base.isEmpty = true := fun hempty => by
        have hnone : base.get? column = none := NameMap.isEmpty_iff.1 hempty column
        rw [hv] at hnone
        cases hnone
      rw [value_ofTable_of_row? hbase, if_neg hfull]
      exact ⟨_, rfl⟩
  · obtain ⟨base, hbase⟩ := exists_row?_of_outcome h
    exact ⟨base, hbase, justified_of_outcome hbase h⟩
  · exact eq_of_sameCounts hsame h h'

/-- The cycles of `a` are a measure, `b` has no conflicts, and what `c` has is not
    compared: without it the comparison is the same. -/
theorem outcome_partly_counted :
    let rows (values : NameMap MetricValue) : List Row :=
      [⟨"base", ⟨[(totalConflicts, .count 0), (totalCycles, .count 10)], by decide⟩⟩,
        ⟨"a", ⟨[(totalConflicts, .count 3), (totalCycles, .measure (.ofNat 8))], by decide⟩⟩,
        ⟨"b", ⟨[(totalCycles, .count 5)], by decide⟩⟩, ⟨"c", values⟩]
    let columns := [totalCycles, totalConflicts, "x"]
    let table : Table := ⟨columns, rows ⟨[("x", .count 1)], by decide⟩, by decide, by decide⟩
    let other : Table := ⟨columns, rows .empty, by decide, by decide⟩
    let entries : List ComparisonEntry :=
      [⟨"a", none, some (.zero false)⟩, ⟨"b", some (.ofNat 50), none⟩]
    (ofTable table "base").value = .ok (some ⟨"base", entries⟩) ∧
      (∃ base, table.row? "base" = some base ∧
        Justified ⟨"base", entries⟩ table "base" base) ∧
      other.SameCounts table ∧
      ∀ comparison, (ofTable other "base").value = .ok (some comparison) →
        comparison = ⟨"base", entries⟩ := by
  intro rows columns table other entries
  have htable : some ⟨"base", entries⟩ ∈ (ofTable table "base").value.toOption := by
    decide +kernel
  have hsame : other.SameCounts table := by decide +kernel
  obtain ⟨hjustified, hcongr⟩ :=
    (outcome_justified table "base").2.2.2 _ (mem_toOption_iff.1 htable)
  exact ⟨mem_toOption_iff.1 htable, hjustified, hsame, fun comparison h => hcongr _ _ hsame h⟩

end Comparison

end PolicyBench
