/-
  PolicyBench — the ranking that a comparison gives.

  Within a comparison the percentages are bounded, and no policy is ranked above one
  with fewer cycles or conflicts.  An improvement never has the wrong sign.  It has
  none, though the counts differ, where both have become the same number: so the
  sign tells everything below 2^53, and not all of it from there on.

  * `exists_row_of_mem_entries`: an entry rests on the row of its policy;
  * `Comparison.RankedBy`, `Comparison.Ranked`: what the percentages of a comparison
    say, and `rankedBy_of_value`: that they do if they are worked out like these;
  * `percentages_bounded_and_ranked`: bound, order and sign of all percentages;
  * `sign_of_improvement`: which improvement has which sign, and where that is the
    whole truth;
  * `fewer_cycles_without_improvement`: where it is not.
-/
import PolicyBench.Proofs.Comparison.Justified
import PolicyBench.Proofs.Comparison.Percentages

namespace PolicyBench

-- `2 ^ n` is the core library's power, also where another one is in scope.
attribute [local instance (high)] instPowNat

namespace Comparison

variable {table : Table} {baseline : String} {base : Row} {comparison : Comparison}

/-- An entry rests on the row of its policy. -/
theorem exists_row_of_mem_entries (hbase : table.row? baseline = some base)
    (h : (ofTable table baseline).value = .ok (some comparison)) {entry : ComparisonEntry}
    (hentry : entry ∈ comparison.entries) :
    ∃ row, table.row? entry.policy = some row ∧ entry.Justified base row := by
  rw [value_ofTable_of_row? hbase, Except.ok.injEq] at h
  split at h
  · cases h
  · cases h
    rw [value_compareRows] at hentry
    obtain ⟨row, hrow, hcompared⟩ := List.mem_filterMap.1 hentry
    have hjustified := justified_of_compareRow hcompared
    refine ⟨row, ?_, hjustified⟩
    rw [hjustified.policy]
    exact Table.row?_of_mem (List.mem_filter.1 hrow).1

/-- What a percentage of the entries says: each about two counts that are compared, and
    two of them about the counts of their policies. -/
structure RankedBy (comparison : Comparison) (table : Table) (base : Row)
    (percentage : ComparisonEntry → Option Binary64)
    (Compared : Row → Row → UInt64 → UInt64 → Prop) : Prop where
  each : ∀ entry ∈ comparison.entries, ∀ x, percentage entry = some x →
    ∃ row b v, table.row? entry.policy = some row ∧ Compared base row b v ∧ PercentOf b v x
  ranked : ∀ e ∈ comparison.entries, ∀ e' ∈ comparison.entries, ∀ x x',
    percentage e = some x → percentage e' = some x' →
      ∃ row row' b v v', table.row? e.policy = some row ∧ table.row? e'.policy = some row' ∧
        Compared base row b v ∧ Compared base row' b v' ∧ (v ≤ v' → x' ≤ x)

/-- What both percentages of a comparison say. -/
structure Ranked (comparison : Comparison) (table : Table) (base : Row) : Prop where
  cycles : comparison.RankedBy table base ComparisonEntry.cycleImprovement CyclesCompared
  conflicts : comparison.RankedBy table base ComparisonEntry.conflictReduction ConflictsCompared

/-- A percentage that is worked out by `f` from counts that are compared. -/
theorem rankedBy_of_value {percentage : ComparisonEntry → Option Binary64}
    {Compared : Row → Row → UInt64 → UInt64 → Prop} {f : UInt64 → UInt64 → Binary64}
    (hvalue : ∀ entry ∈ comparison.entries, ∃ row, table.row? entry.policy = some row ∧
      ∀ x, percentage entry = some x → ∃ b v, Compared base row b v ∧ x = f b v)
    (hbase : ∀ {row row' b b' v v'}, Compared base row b v → Compared base row' b' v' → b = b')
    (hpercent : ∀ {row b v}, Compared base row b v → PercentOf b v (f b v))
    (hanti : ∀ {row b v v'}, Compared base row b v → v ≤ v' → f b v' ≤ f b v) :
    comparison.RankedBy table base percentage Compared := by
  constructor
  case each =>
    intro entry hentry x hx
    obtain ⟨row, hrow, hworked⟩ := hvalue entry hentry
    obtain ⟨b, v, hcompared, rfl⟩ := hworked x hx
    exact ⟨row, b, v, hrow, hcompared, hpercent hcompared⟩
  case ranked =>
    intro e he e' he' x x' hx hx'
    obtain ⟨row, hrow, hworked⟩ := hvalue e he
    obtain ⟨row', hrow', hworked'⟩ := hvalue e' he'
    obtain ⟨b, v, hcompared, rfl⟩ := hworked x hx
    obtain ⟨b', v', hcompared', rfl⟩ := hworked' x' hx'
    -- both rest on the one count of the baseline
    obtain rfl := hbase hcompared hcompared'
    exact ⟨row, row', b, v, v', hrow, hrow', hcompared, hcompared', hanti hcompared⟩

theorem ranked_of_outcome (hbase : table.row? baseline = some base)
    (h : (ofTable table baseline).value = .ok (some comparison)) :
    comparison.Ranked table base := by
  have hcount {column : String} {b b' : UInt64} (hb : base.get? column = some (.count b))
      (hb' : base.get? column = some (.count b')) : b = b' :=
    MetricValue.count.inj (Option.some.inj (hb.symm.trans hb'))
  constructor
  case cycles =>
    refine rankedBy_of_value (fun entry hentry => ?_)
      (fun hcompared hcompared' => hcount hcompared.base hcompared'.base)
      (fun hcompared => percentOf_percentBelow hcompared.base_ne_zero _)
      (fun hcompared => percentBelow_anti hcompared.base_ne_zero)
    obtain ⟨row, hrow, hjustified⟩ := exists_row_of_mem_entries hbase h hentry
    exact ⟨row, hrow, fun x hx => (hjustified.cycles x).1 hx⟩
  case conflicts =>
    refine rankedBy_of_value (fun entry hentry => ?_)
      (fun hcompared hcompared' => hcount hcompared.base hcompared'.base)
      (fun _ => percentOf_conflictReduction _ _) (fun _ => conflictReduction_anti _)
    obtain ⟨row, hrow, hjustified⟩ := exists_row_of_mem_entries hbase h hentry
    exact ⟨row, hrow, fun x hx => (hjustified.conflicts x).1 hx⟩

/-- **Percentages are bounded, and rank as the counts do.**  For all counts they are
    finite, a hundred at most, nothing for the count of the baseline itself, and not
    greater for a greater count; for cycles the baseline must have some.  So it is
    with all percentages of a comparison. -/
theorem percentages_bounded_and_ranked :
    (∀ b v v' : UInt64, b ≠ 0 → v ≤ v' →
      (cycleImprovement b v).isFinite = true ∧ cycleImprovement b v ≤ .ofNat 100 ∧
        cycleImprovement b b = .zero false ∧ cycleImprovement b v' ≤ cycleImprovement b v) ∧
    (∀ b v v' : UInt64, v ≤ v' →
      (conflictReduction b v).isFinite = true ∧ conflictReduction b v ≤ .ofNat 100 ∧
        conflictReduction b b = .zero false ∧
        conflictReduction b v' ≤ conflictReduction b v) ∧
    ∀ table baseline comparison, (ofTable table baseline).value = .ok (some comparison) →
      ∃ base, table.row? baseline = some base ∧ comparison.Ranked table base := by
  refine ⟨fun b v v' hb h => ?_, fun b v v' h => ?_, fun table baseline comparison h => ?_⟩
  · have hpercent := percentOf_percentBelow hb v
    exact ⟨hpercent.finite, hpercent.le_hundred, percentBelow_self hb, percentBelow_anti hb h⟩
  · have hpercent := percentOf_conflictReduction b v
    exact ⟨hpercent.finite, hpercent.le_hundred, conflictReduction_self b,
      conflictReduction_anti b h⟩
  · obtain ⟨base, hbase⟩ := exists_row?_of_outcome h
    exact ⟨base, hbase, ranked_of_outcome hbase h⟩

/-- The greatest counts there are, against a baseline of one cycle and no conflicts. -/
theorem ranked_greatest_counts :
    let greatest : UInt64 := 18446744073709551615
    let rows : List Row :=
      [⟨"base", ⟨[(totalConflicts, .count 0), (totalCycles, .count 1)], by decide⟩⟩,
        ⟨"a", ⟨[(totalConflicts, .count greatest), (totalCycles, .count greatest)], by decide⟩⟩,
        ⟨"b", ⟨[(totalCycles, .count 0)], by decide⟩⟩]
    let table : Table := ⟨[totalCycles, totalConflicts], rows, by decide, by decide⟩
    let entries : List ComparisonEntry :=
      [⟨"a", some (cycleImprovement 1 greatest), some (.zero false)⟩,
        ⟨"b", some (.ofNat 100), none⟩]
    (ofTable table "base").value = .ok (some ⟨"base", entries⟩) ∧
      (∃ base, table.row? "base" = some base ∧ Ranked ⟨"base", entries⟩ table base) ∧
      (cycleImprovement 1 greatest).isFinite = true ∧
      cycleImprovement 1 greatest ≤ cycleImprovement 1 0 := by
  intro greatest rows table entries
  have htable : some ⟨"base", entries⟩ ∈ (ofTable table "base").value.toOption := by
    decide +kernel
  obtain ⟨himprovement, -, hranked⟩ := percentages_bounded_and_ranked
  exact ⟨mem_toOption_iff.1 htable, hranked _ _ _ (mem_toOption_iff.1 htable),
    (himprovement 1 greatest greatest (by decide) (by decide)).1,
    (himprovement 1 0 greatest (by decide) (by decide)).2.2.2⟩

end Comparison

/-! ## The sign of an improvement -/

/-- The sign of `x` tells which of two counts is greater, that of the baseline first. -/
structure SignTells (b v : UInt64) (x : Binary64) : Prop where
  fewer : .zero false < x ↔ v < b
  more : x < .zero false ↔ b < v
  same : x.equal (.zero false) = true ↔ v = b

/-- The sign tells the truth exactly if the counts have not become the same number. -/
theorem signTells_iff {b : UInt64} (hb : b ≠ 0) (v : UInt64) :
    SignTells b v (percentBelow b v) ↔
      (Binary64.ofNat v.toNat = .ofNat b.toNat → v = b) := by
  obtain ⟨hpos, hneg, hzero⟩ := percentBelow_sign hb v
  constructor
  · intro h hsame
    exact h.same.1 (hzero.2 hsame)
  · intro h
    have hlt {m n : UInt64} (hmn : m < n)
        (hne : Binary64.ofNat m.toNat ≠ .ofNat n.toNat) :
        Binary64.ofNat m.toNat < .ofNat n.toNat := by
      rw [Binary64.lt_iff_of_value? (Binary64.value?_ofNat (Nat.le_of_lt m.toNat_lt))
        (Binary64.value?_ofNat (Nat.le_of_lt n.toNat_lt)), Int.ofNat_lt]
      refine Nat.lt_of_le_of_ne (Binary64.wholeUnits_mono ?_) ?_
      · exact UInt64.le_iff_toNat_le.1 (UInt64.le_of_lt hmn)
      · rwa [← Binary64.ofNat_inj_iff (Nat.le_of_lt m.toNat_lt) (Nat.le_of_lt n.toNat_lt)]
    constructor
    case fewer =>
      rw [hpos]
      exact ⟨lt_of_ofNat_lt, fun hvb => hlt hvb fun hsame => UInt64.ne_of_lt hvb (h hsame)⟩
    case more =>
      rw [hneg]
      refine ⟨lt_of_ofNat_lt, fun hbv => hlt hbv fun hsame => ?_⟩
      exact UInt64.ne_of_lt hbv (h hsame.symm).symm
    case same =>
      rw [hzero]
      exact ⟨h, fun hvb => by rw [hvb]⟩

/-- A count below 2^53 does not become the same number as another one. -/
theorem eq_of_ofNat_eq {b v : UInt64} (hsmall : v.toNat < 2 ^ (53 : Nat) ∨ b.toNat < 2 ^ (53 : Nat))
    (h : Binary64.ofNat v.toNat = .ofNat b.toNat) : v = b := by
  rw [Binary64.ofNat_inj_iff (Nat.le_of_lt v.toNat_lt) (Nat.le_of_lt b.toNat_lt)] at h
  have hvb := mt (Binary64.wholeUnits_lt_iff hsmall).2 (by omega)
  have hbv := mt (Binary64.wholeUnits_lt_iff hsmall.symm).2 (by omega)
  exact UInt64.toNat_inj.1 (by omega)

namespace Comparison

/-- **The sign of an improvement.**  It is the order of the counts of cycles after
    they have become numbers of the format.  So it is never the wrong one, and
    tells the whole truth exactly if different counts have not become the same
    number; they have not if one of them is below 2^53. -/
theorem sign_of_improvement {table : Table} {baseline : String} {comparison : Comparison}
    (h : (ofTable table baseline).value = .ok (some comparison)) {entry : ComparisonEntry}
    (hentry : entry ∈ comparison.entries) {x : Binary64}
    (hx : entry.cycleImprovement = some x) :
    ∃ base row b v, table.row? baseline = some base ∧ table.row? entry.policy = some row ∧
      base.get? totalCycles = some (.count b) ∧ row.get? totalCycles = some (.count v) ∧
      (.zero false < x ↔ Binary64.ofNat v.toNat < .ofNat b.toNat) ∧
      (x < .zero false ↔ Binary64.ofNat b.toNat < .ofNat v.toNat) ∧
      (x.equal (.zero false) = true ↔ Binary64.ofNat v.toNat = .ofNat b.toNat) ∧
      (.zero false < x → v < b) ∧ (x < .zero false → b < v) ∧
      (SignTells b v x ↔ (Binary64.ofNat v.toNat = .ofNat b.toNat → v = b)) ∧
      (v.toNat < 2 ^ (53 : Nat) ∨ b.toNat < 2 ^ (53 : Nat) → SignTells b v x) := by
  obtain ⟨base, hbase⟩ := exists_row?_of_outcome h
  obtain ⟨row, hrow, hjustified⟩ := exists_row_of_mem_entries hbase h hentry
  obtain ⟨b, v, hcompared, hvalue⟩ := (hjustified.cycles x).1 hx
  have hpercent := percentOf_percentBelow hcompared.base_ne_zero v
  have htells := signTells_iff hcompared.base_ne_zero v
  obtain ⟨hpos, hneg, hzero⟩ := percentBelow_sign hcompared.base_ne_zero v
  rw [cycleImprovement] at hvalue
  rw [hvalue]
  exact ⟨base, row, b, v, hbase, hrow, hcompared.base, hcompared.row, hpos, hneg, hzero,
    hpercent.fewer, hpercent.more, htells, fun hsmall => htells.2 (eq_of_ofNat_eq hsmall)⟩

/-- One cycle less than the least count that is not told from the next one. -/
theorem sign_of_last_exact_count :
    let rows : List Row :=
      [⟨"base", ⟨[(totalCycles, .count 9007199254740992)], by decide⟩⟩,
        ⟨"a", ⟨[(totalCycles, .count 9007199254740991)], by decide⟩⟩]
    let table : Table := ⟨[totalCycles], rows, by decide, by decide⟩
    ∃ comparison x, (ofTable table "base").value = .ok (some comparison) ∧
      ⟨"a", some x, none⟩ ∈ comparison.entries ∧
      SignTells 9007199254740992 9007199254740991 x := by
  intro rows table
  let x := cycleImprovement 9007199254740992 9007199254740991
  have htable : some ⟨"base", [⟨"a", some x, none⟩]⟩ ∈ (ofTable table "base").value.toOption := by
    decide +kernel
  refine ⟨_, x, mem_toOption_iff.1 htable, List.mem_singleton.2 rfl, ?_⟩
  obtain ⟨base, row, b, v, hbase, hrow, hb, hv, -, -, -, -, -, -, htells⟩ :=
    sign_of_improvement (mem_toOption_iff.1 htable) (List.mem_singleton.2 rfl) rfl
  cases hbase
  cases hrow
  cases hb
  cases hv
  exact htells (.inl (by decide))

/-- One cycle less is no improvement on a baseline of 2^53 + 1 cycles. -/
theorem fewer_cycles_without_improvement :
    let rows : List Row :=
      [⟨"base", ⟨[(totalCycles, .count 9007199254740993)], by decide⟩⟩,
        ⟨"a", ⟨[(totalCycles, .count 9007199254740992)], by decide⟩⟩]
    let table : Table := ⟨[totalCycles], rows, by decide, by decide⟩
    (ofTable table "base").value =
        .ok (some ⟨"base", [⟨"a", some (.zero false), none⟩]⟩) ∧
      (9007199254740992 : UInt64) < 9007199254740993 ∧
      ¬ Binary64.zero false < .zero false ∧
      ¬ SignTells 9007199254740993 9007199254740992 (.zero false) := by
  intro rows table
  have htable : some ⟨"base", [⟨"a", some (.zero false), none⟩]⟩ ∈
      (ofTable table "base").value.toOption := by decide +kernel
  refine ⟨mem_toOption_iff.1 htable, by decide, by decide, fun htells => ?_⟩
  exact absurd (htells.fewer.2 (by decide)) (by decide)

end Comparison

end PolicyBench
