/-
  PolicyBench — which values are derived, and that they are finite.

  Whatever the constants are, NaN and the infinities never get into a table.  From
  the cycles of a policy nothing is derived, or its two times, or its throughput as
  well; which of the three depends on what is finite on the way, and on whether the
  time in seconds is zero.  A time that is not zero in nanoseconds may be so small
  that it is zero in seconds.

  * `Derived`: what can be derived from the time in nanoseconds;
  * `derived_value_derive`: what is derived is that, `Derived.isFinite` that it is
    finite;
  * `Table.allFinite_of_ofRuns`: no value of a table of runs is NaN or infinite;
  * `Row.DerivedPattern`: which of the derived columns have a value in a row;
  * `derived_values_finite_in_pattern`: both, for every table of runs.
-/
import PolicyBench.Proofs.Binary64.Order
import PolicyBench.Proofs.Table.Schema

namespace PolicyBench

variable {timing : Timing} {run : Run} {runs : List Run}

/-! ## Derived values -/

/-- What is derived from a time of `ns` nanoseconds and the number of tokens:
    nothing, the times, or the times and the throughput. -/
inductive Derived (ns tokens : Binary64) : List (String × Binary64) → Prop where
  | nothing : ns.isFinite = false → Derived ns tokens []
  | times : ns.isFinite = true →
      (ns / nanosecondsPerSecond).isZero = true ∨
        (tokens / (ns / nanosecondsPerSecond)).isFinite = false →
      Derived ns tokens [(totalTimeNs, ns), (totalTimeSeconds, ns / nanosecondsPerSecond)]
  | all : ns.isFinite = true → (ns / nanosecondsPerSecond).isZero = false →
      (tokens / (ns / nanosecondsPerSecond)).isFinite = true →
      Derived ns tokens [(totalTimeNs, ns), (totalTimeSeconds, ns / nanosecondsPerSecond),
        (throughput, tokens / (ns / nanosecondsPerSecond))]

theorem Binary64.finite?_of_isFinite {x : Binary64} (h : x.isFinite = true) :
    x.finite? = some x := by
  rw [finite?, if_pos h]

theorem Binary64.finite?_of_not_isFinite {x : Binary64} (h : x.isFinite = false) :
    x.finite? = none := by
  rw [finite?, if_neg (Bool.eq_false_iff.1 h)]

theorem derived_value_derive (policy : String) (cycles : UInt64) (ns tokens : Binary64) :
    Derived ns tokens (derive policy cycles ns tokens).value := by
  rw [value_derive]
  cases hns : ns.isFinite with
  | false =>
    rw [Binary64.finite?_of_not_isFinite hns]
    exact .nothing hns
  | true =>
    rw [Binary64.finite?_of_isFinite hns]
    dsimp only
    cases hzero : (ns / nanosecondsPerSecond).isZero with
    | true => exact .times hns (.inl hzero)
    | false =>
      cases hrate : (tokens / (ns / nanosecondsPerSecond)).isFinite with
      | false =>
        rw [Binary64.finite?_of_not_isFinite hrate]
        exact .times hns (.inr hrate)
      | true =>
        rw [Binary64.finite?_of_isFinite hrate]
        exact .all hns hzero hrate

/-- A time that is finite in nanoseconds is finite in seconds. -/
theorem isFinite_div_nanosecondsPerSecond {ns : Binary64} (h : ns.isFinite = true) :
    (ns / nanosecondsPerSecond).isFinite = true := by
  rw [nanosecondsPerSecond, Binary64.ofNat_eq_finite (by decide)]
  exact Binary64.isFinite_div h (Nat.le_mul_of_pos_left unitsOfOne (by decide))

theorem Derived.isFinite {ns tokens : Binary64} {values : List (String × Binary64)}
    (h : Derived ns tokens values) : ∀ d ∈ values, d.2.isFinite = true := by
  cases h with
  | nothing => exact List.forall_mem_nil _
  | times hns => simp [hns, isFinite_div_nanosecondsPerSecond hns]
  | all hns _ hrate => simp [hns, isFinite_div_nanosecondsPerSecond hns, hrate]

section
variable {ns tokens : Binary64} {values : List (String × Binary64)} (h : Derived ns tokens values)
include h

theorem Derived.names : values.map Prod.fst = [] ∨
    values.map Prod.fst = [totalTimeNs, totalTimeSeconds] ∨
    values.map Prod.fst = derivedNames := by
  cases h with
  | nothing => exact .inl rfl
  | times => exact .inr (.inl rfl)
  | all => exact .inr (.inr rfl)

/-- Nothing is derived exactly if the time is not finite. -/
theorem Derived.names_eq_nil_iff : values.map Prod.fst = [] ↔ ns.isFinite = false := by
  cases h with
  | nothing hns => simp [hns]
  | times hns => simp [hns]
  | all hns => simp [hns]

/-- There is a throughput exactly if it can be worked out from the time in seconds. -/
theorem Derived.throughput_mem_iff : throughput ∈ values.map Prod.fst ↔
    ∃ seconds, NameMap.lookup totalTimeSeconds values.reverse = some seconds ∧
      seconds.isZero = false ∧ (tokens / seconds).isFinite = true := by
  cases h with
  | nothing => simp [NameMap.lookup]
  | times hns hrate =>
    have hnames : throughput ∉ [totalTimeNs, totalTimeSeconds] := by decide
    refine iff_of_false hnames ?_
    rintro ⟨_, ⟨rfl⟩, hzero, hfinite⟩
    rcases hrate with hrate | hrate
    · rw [hzero] at hrate; cases hrate
    · rw [hfinite] at hrate; cases hrate
  | all hns hzero hrate =>
    have hnames : throughput ∈ derivedNames := by decide
    exact iff_of_true hnames ⟨_, rfl, hzero, hrate⟩

end

theorem Run.derived_of_cycles {n : UInt64} (h : run.metrics.get? totalCycles = some n) :
    Derived (.ofNat n.toNat * timing.cyclePeriod) (.ofNat timing.tokens.toNat)
      (run.derived timing).value := by
  unfold derived
  rw [h]
  exact derived_value_derive ..

theorem Run.derived_of_no_cycles (h : run.metrics.get? totalCycles = none) :
    run.derived timing = pure [] := by
  unfold derived
  rw [h]

theorem Run.isFinite_of_mem_derived : ∀ d ∈ (run.derived timing).value, d.2.isFinite = true := by
  cases h : run.metrics.get? totalCycles with
  | none =>
    rw [derived_of_no_cycles h]
    exact List.forall_mem_nil _
  | some n => exact (derived_of_cycles h).isFinite

/-! ## Finite tables -/

theorem Run.allFinite_row : (run.row timing).value.AllFinite := by
  rw [Row.allFinite_iff]
  intro column v hv
  rw [get?_row, Option.or_eq_some_iff] at hv
  rcases hv with hv | ⟨-, hv⟩
  · obtain ⟨x, hx, rfl⟩ := Option.map_eq_some_iff.1 hv
    exact isFinite_of_mem_derived _ (List.mem_reverse.1 (NameMap.mem_of_lookup hx))
  · obtain ⟨n, -, rfl⟩ := Option.map_eq_some_iff.1 hv
    rfl

/-- No value of a table of runs is NaN or infinite. -/
theorem Table.allFinite_of_ofRuns {table : Table}
    (h : (Table.ofRuns timing runs).value = .ok table) : table.AllFinite := by
  intro row hrow
  rw [(value_ofRuns_eq_ok_iff.1 h).2] at hrow
  obtain ⟨run, -, rfl⟩ := mem_rowsOf.1 hrow
  exact run.allFinite_row

/-! ## The pattern of a row -/

/-- The derived columns in which the row has a value. -/
def Row.derivedPresent (row : Row) : List String :=
  derivedNames.filter (· ∈ row.values.names)

/-- Which of the derived columns have a value in a row: none, the times, or all of
    them. -/
structure Row.DerivedPattern (timing : Timing) (row : Row) : Prop where
  present : row.derivedPresent = [] ∨ row.derivedPresent = [totalTimeNs, totalTimeSeconds] ∨
    row.derivedPresent = derivedNames
  none_iff : row.derivedPresent = [] ↔ totalCycles ∉ row.values.names ∨
    ∃ n, row.get? totalCycles = some (.count n) ∧
      (Binary64.ofNat n.toNat * timing.cyclePeriod).isFinite = false
  throughput_iff : throughput ∈ row.values.names ↔
    ∃ seconds, row.get? totalTimeSeconds = some (.measure seconds) ∧ seconds.isZero = false ∧
      (Binary64.ofNat timing.tokens.toNat / seconds).isFinite = true

theorem filter_mem_of_prefix {s l : List String} (hl : l.Nodup) (h : s <+: l) :
    l.filter (· ∈ s) = s := by
  obtain ⟨t, rfl⟩ := h
  have hdisjoint : ∀ b ∈ t, b ∉ s := fun b hb hs => (List.nodup_append.1 hl).2.2 b hs b hb rfl
  have hs : s.filter (· ∈ s) = s := List.filter_eq_self.2 fun a ha => by simpa using ha
  have ht : t.filter (· ∈ s) = [] := List.filter_eq_nil_iff.2 fun b hb => by
    simpa using hdisjoint b hb
  rw [List.filter_append, hs, ht, List.append_nil]

namespace Run.RawOnly

variable (h : run.RawOnly)
include h

/-- The derived columns with a value are those of the derived values. -/
theorem derivedPresent_row :
    (run.row timing).value.derivedPresent = (run.derived timing).value.map Prod.fst := by
  have hsame : derivedNames.filter (· ∈ (run.row timing).value.values.names) =
      derivedNames.filter (· ∈ (run.derived timing).value.map Prod.fst) :=
    List.filter_congr fun name hname => by rw [decide_eq_decide, h.mem_names_row_of_mem hname]
  rw [Row.derivedPresent, hsame, filter_mem_of_prefix derivedNames_nodup names_derived_prefix]

theorem throughput_mem_names_row : throughput ∈ (run.row timing).value.values.names ↔
    throughput ∈ (run.derived timing).value.map Prod.fst :=
  h.mem_names_row_of_mem (by decide)

theorem get?_row_totalTimeSeconds : (run.row timing).value.get? totalTimeSeconds =
    (NameMap.lookup totalTimeSeconds (run.derived timing).value.reverse).map .measure :=
  h.get?_row_of_mem (by decide)

/-- **Which derived columns have a value in the row of a run.** -/
theorem derivedPattern : (run.row timing).value.DerivedPattern timing := by
  have hcycles : (run.row timing).value.get? totalCycles =
      (run.metrics.get? totalCycles).map .count := get?_row_of_notMem (by decide)
  have hmem : totalCycles ∈ (run.row timing).value.values.names ↔
      (run.metrics.get? totalCycles).isSome = true := by
    rw [NameMap.mem_names_iff, ← Row.get?, hcycles, Option.isSome_map]
  cases hn : run.metrics.get? totalCycles with
  | none =>
    have hderived : (run.derived timing).value = [] := by rw [derived_of_no_cycles hn]; rfl
    have hpresent : (run.row timing).value.derivedPresent = [] := by
      rw [h.derivedPresent_row, hderived, List.map_nil]
    constructor
    case present => exact .inl hpresent
    case none_iff => exact iff_of_true hpresent (.inl (by rw [hmem, hn]; exact Bool.false_ne_true))
    case throughput_iff =>
      rw [h.throughput_mem_names_row, h.get?_row_totalTimeSeconds, hderived]
      refine iff_of_false List.not_mem_nil ?_
      rintro ⟨seconds, hseconds, -⟩
      simp [NameMap.lookup] at hseconds
  | some n =>
    have hderived : Derived _ _ (run.derived timing).value := derived_of_cycles hn
    constructor
    case present =>
      rw [h.derivedPresent_row]
      exact hderived.names
    case none_iff =>
      rw [h.derivedPresent_row, hderived.names_eq_nil_iff, hmem, hcycles, hn]
      simp only [Option.isSome_some, not_true_eq_false, false_or, Option.map_some,
        Option.some.injEq, MetricValue.count.injEq, exists_eq_left']
    case throughput_iff =>
      rw [h.throughput_mem_names_row, h.get?_row_totalTimeSeconds, hderived.throughput_mem_iff]
      simp only [Option.map_eq_some_iff, MetricValue.measure.injEq, exists_eq_right]

end Run.RawOnly

/-! ## Tables of runs -/

/-- **Every value of a table of runs is finite, and what is derived appears in a
    fixed pattern**, whatever the constants are: a clock period that makes no
    sense, too, leads to no NaN and no infinity. -/
theorem derived_values_finite_in_pattern (timing : Timing)
    (hdistinct : (runs.map (·.policy)).Nodup) :
    ∃ table, (Table.ofRuns timing runs).value = .ok table ∧ table.AllFinite ∧
      ((∀ run ∈ runs, run.RawOnly) → ∀ row ∈ table.rows, row.DerivedPattern timing) := by
  obtain ⟨table, htable⟩ := Table.exists_value_ofRuns_eq_ok_iff.2 hdistinct
  refine ⟨table, htable, Table.allFinite_of_ofRuns htable, fun hraw row hrow => ?_⟩
  rw [(Table.value_ofRuns_eq_ok_iff.1 htable).2, value_rowsOf] at hrow
  obtain ⟨run, hrun, rfl⟩ := List.mem_map.1 hrow
  exact (hraw run hrun).derivedPattern

/-- With the least clock period that there is, one cycle takes no time in seconds,
    so that there is no throughput. -/
theorem derived_pattern_of_least_period :
    let timing : Timing := ⟨.ofBits 1, 512⟩
    let runs : List Run := [⟨"a", ⟨[(totalCycles, 1)], by decide⟩⟩, ⟨"b", .empty⟩]
    (runs.map (·.policy)).Nodup ∧ (∀ run ∈ runs, run.RawOnly) ∧
    ∃ table, (Table.ofRuns timing runs).value = .ok table ∧ table.AllFinite ∧
      (∀ row ∈ table.rows, row.DerivedPattern timing) ∧
      table.rows.map Row.derivedPresent = [[totalTimeNs, totalTimeSeconds], []] := by
  intro timing runs
  have hdistinct : (runs.map (·.policy)).Nodup := by decide
  have hraw : ∀ run ∈ runs, run.RawOnly := by
    unfold Run.RawOnly
    decide
  obtain ⟨table, htable, hfinite, hpattern⟩ := derived_values_finite_in_pattern timing hdistinct
  refine ⟨hdistinct, hraw, table, htable, hfinite, hpattern hraw, ?_⟩
  rw [(Table.value_ofRuns_eq_ok_iff.1 htable).2]
  decide +kernel

end PolicyBench
