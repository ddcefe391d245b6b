/-
  PolicyBench — the columns of the table of a set of runs.

  Runs report under names of their own, and what is derived from them has fixed
  names.  As long as no run reports under one of the fixed names, the columns of
  the table are those of the reports, in order, and then the first few of the
  derived ones; each of them has a value somewhere.

  * `Run.RawOnly`: a run reports nothing under the name of a derived column;
  * `Run.get?_row`, `Run.get?_row_eq_count_iff`: the values of a row, and those
    among them that are reported;
  * `Table.Schema`: what can be said of the columns, and of the values in them;
  * `Table.schema_of_ofRuns`: the table of such runs has that schema.
-/
import PolicyBench.Proofs.Table.Runs
import PolicyBench.Proofs.Text.Utf8Order

namespace PolicyBench

variable {timing : Timing} {run : Run} {runs : List Run} {name : String}

/-! ## The values of a row -/

/-- What is derived takes precedence over what is reported. -/
theorem Run.get?_row : (run.row timing).value.get? name =
    ((NameMap.lookup name (run.derived timing).value.reverse).map .measure).or
      ((run.metrics.get? name).map .count) := by
  rw [Row.get?, value_row, NameMap.get?_insertAll, NameMap.get?_map, ← List.map_reverse,
    NameMap.lookup_map]

theorem Run.lookup_derived_eq_none (h : name ∉ derivedNames) :
    NameMap.lookup name (run.derived timing).value.reverse = none := by
  rw [← Option.not_isSome_iff_eq_none, NameMap.lookup_isSome_iff, List.map_reverse,
    List.mem_reverse]
  exact fun hmem => h <| names_derived_prefix.subset hmem

/-- Outside the derived columns a row holds what is reported. -/
theorem Run.get?_row_of_notMem (h : name ∉ derivedNames) :
    (run.row timing).value.get? name = (run.metrics.get? name).map .count := by
  rw [get?_row, lookup_derived_eq_none h]
  rfl

/-- Nothing is reported under the name of a derived column. -/
def Run.RawOnly (run : Run) : Prop := ∀ name ∈ run.metrics.names, name ∉ derivedNames

namespace Run.RawOnly

variable (h : run.RawOnly)
include h

/-- In the derived columns a row holds what is derived. -/
theorem get?_row_of_mem (hname : name ∈ derivedNames) : (run.row timing).value.get? name =
    (NameMap.lookup name (run.derived timing).value.reverse).map .measure := by
  have hnone : run.metrics.get? name = none := by
    rw [← Option.not_isSome_iff_eq_none, ← NameMap.mem_names_iff]
    exact fun hmem => h name hmem hname
  rw [get?_row, hnone, Option.map_none, Option.or_none]

theorem mem_names_row_of_mem (hname : name ∈ derivedNames) :
    name ∈ (run.row timing).value.values.names ↔
      name ∈ (run.derived timing).value.map Prod.fst := by
  rw [mem_names_row]
  exact or_iff_left fun hmem => h name hmem hname

/-- The counts in a row are what is reported. -/
theorem get?_row_eq_count_iff {n : UInt64} :
    (run.row timing).value.get? name = some (.count n) ↔ run.metrics.get? name = some n := by
  by_cases hname : name ∈ derivedNames
  · have hnot : name ∉ run.metrics.names := fun hmem => h name hmem hname
    rw [NameMap.mem_names_iff, Option.not_isSome_iff_eq_none] at hnot
    rw [h.get?_row_of_mem hname, hnot]
    simp
  · rw [get?_row_of_notMem hname]
    simp

end Run.RawOnly

/-! ## The columns -/

/-- A filter that keeps nothing without what stands before it keeps a first part
    of the list. -/
theorem filter_prefix_of_pairwise {α : Type} {p : α → Bool} {l : List α}
    (h : l.Pairwise fun a b => p b = true → p a = true) : l.filter p <+: l := by
  induction l with
  | nil => exact List.nil_prefix
  | cons a l ih =>
    obtain ⟨ha, hl⟩ := List.pairwise_cons.1 h
    cases hp : p a with
    | true =>
      rw [List.filter_cons_of_pos hp]
      exact (List.prefix_cons_inj a).2 (ih hl)
    | false =>
      have hnone : l.filter p = [] := by
        rw [List.filter_eq_nil_iff]
        intro b hb hpb
        rw [ha b hb hpb] at hp
        cases hp
      rw [List.filter_cons_of_neg (by simp [hp]), hnone]
      exact List.nil_prefix

/-- What stands in a first part of a list stands there with all before it. -/
theorem pairwise_mem_of_initial {α : Type} {s l : List α} (hl : l.Nodup) (h : s <+: l) :
    l.Pairwise fun a b => b ∈ s → a ∈ s := by
  obtain ⟨t, rfl⟩ := h
  have hdisjoint : ∀ b ∈ t, b ∉ s := fun b hb hs => (List.nodup_append.1 hl).2.2 b hs b hb rfl
  refine List.pairwise_append.2 ⟨?_, ?_, fun a ha b _ _ => ha⟩
  · exact List.pairwise_of_forall_mem_list fun a ha b _ _ => ha
  · exact List.pairwise_of_forall_mem_list fun a _ b hb hs => absurd hs (hdisjoint b hb)

theorem derivedNames_nodup : derivedNames.Nodup := by decide

/-- Of the derived columns a table has the first few. -/
theorem derivedColumns_prefix (timing : Timing) (h : ∀ run ∈ runs, run.RawOnly) :
    derivedColumns (rowsOf timing runs).value <+: derivedNames := by
  refine filter_prefix_of_pairwise (List.pairwise_iff_forall_sublist.2 fun {a b} hab hb => ?_)
  simp only [List.any_eq_true, Row.get?, ← NameMap.mem_names_iff, mem_rowsOf] at hb ⊢
  obtain ⟨row, ⟨run, hrun, rfl⟩, hmem⟩ := hb
  have hderived : a ∈ derivedNames ∧ b ∈ derivedNames :=
    ⟨hab.subset List.mem_cons_self, hab.subset (List.mem_cons_of_mem _ List.mem_cons_self)⟩
  refine ⟨_, ⟨run, hrun, rfl⟩, ?_⟩
  rw [(h run hrun).mem_names_row_of_mem hderived.1]
  rw [(h run hrun).mem_names_row_of_mem hderived.2] at hmem
  have hfirst : (run.derived timing).value.map Prod.fst <+: derivedNames :=
    run.names_derived_prefix
  exact List.pairwise_iff_forall_sublist.1 (pairwise_mem_of_initial derivedNames_nodup hfirst)
    hab hmem

theorem notMem_derivedNames_of_mem_rawColumns (h : ∀ run ∈ runs, run.RawOnly)
    (hname : name ∈ rawColumns runs) : name ∉ derivedNames := by
  obtain ⟨run, hrun, hmem⟩ := mem_rawColumns.1 hname
  exact h run hrun name hmem

/-- No name is there twice. -/
theorem nodup_columns (h : ∀ run ∈ runs, run.RawOnly) :
    (rawColumns runs ++ derivedColumns (rowsOf timing runs).value).Nodup := by
  have hfirst := derivedColumns_prefix timing h
  refine List.nodup_append.2
    ⟨rawColumns_nodup runs, derivedNames_nodup.sublist hfirst.sublist, ?_⟩
  rintro a ha _ hb rfl
  exact notMem_derivedNames_of_mem_rawColumns h ha (hfirst.subset hb)

/-- The columns are the names that occur in the rows. -/
theorem mem_rawColumns_append_iff :
    name ∈ rawColumns runs ++ derivedColumns (rowsOf timing runs).value ↔
      ∃ row ∈ (rowsOf timing runs).value, name ∈ row.values.names := by
  constructor
  · intro hname
    rcases List.mem_append.1 hname with hname | hname
    · obtain ⟨run, hrun, hmem⟩ := mem_rawColumns.1 hname
      exact ⟨_, mem_rowsOf.2 ⟨run, hrun, rfl⟩, Run.mem_names_row.2 (.inr hmem)⟩
    · exact (mem_derivedColumns.1 hname).2
  · rintro ⟨row, hrow, hname⟩
    exact covered_rowsOf timing runs row hrow name hname

/-! ## The schema -/

/-- The columns `raw` are in the order of their bytes and hold counts, the others
    are the first few of the derived ones and hold measures; none of them is
    there twice, and none is empty. -/
structure Table.Schema (table : Table) (raw derived : List String) : Prop where
  columns : table.columns = raw ++ derived
  nodup : table.columns.Nodup
  increasing : raw.Pairwise fun a b => Text.utf8 a < Text.utf8 b
  derived_prefix : derived <+: derivedNames
  mem_columns_iff : ∀ name, name ∈ table.columns ↔ ∃ row ∈ table.rows, name ∈ row.values.names
  counts : ∀ row ∈ table.rows, ∀ name ∈ raw, ∀ v, row.get? name = some v → ∃ n, v = .count n
  measures : ∀ row ∈ table.rows, ∀ name ∈ derived, ∀ v,
    row.get? name = some v → ∃ x, v = .measure x

/-- **The table of runs that report nothing under derived names has the schema.** -/
theorem Table.schema_of_ofRuns {table : Table} (hraw : ∀ run ∈ runs, run.RawOnly)
    (h : (Table.ofRuns timing runs).value = .ok table) :
    table.Schema (rawColumns runs) (derivedColumns (rowsOf timing runs).value) := by
  obtain ⟨hcolumns, hrows⟩ := value_ofRuns_eq_ok_iff.1 h
  have hfirst := derivedColumns_prefix timing hraw
  have hrun {row : Row} (hrow : row ∈ table.rows) :
      ∃ run ∈ runs, (run.row timing).value = row := mem_rowsOf.1 (hrows ▸ hrow)
  constructor
  case columns => exact hcolumns
  case nodup => exact hcolumns ▸ nodup_columns hraw
  case increasing => exact (rawColumns_increasing runs).imp Text.utf8_lt_utf8
  case derived_prefix => exact hfirst
  case mem_columns_iff =>
    intro name
    rw [hcolumns, hrows, mem_rawColumns_append_iff]
  case counts =>
    intro row hrow name hname v hv
    obtain ⟨run, -, rfl⟩ := hrun hrow
    rw [Run.get?_row_of_notMem (notMem_derivedNames_of_mem_rawColumns hraw hname),
      Option.map_eq_some_iff] at hv
    obtain ⟨n, -, rfl⟩ := hv
    exact ⟨n, rfl⟩
  case measures =>
    intro row hrow name hname v hv
    obtain ⟨run, hmem, rfl⟩ := hrun hrow
    rw [(hraw run hmem).get?_row_of_mem (hfirst.subset hname), Option.map_eq_some_iff] at hv
    obtain ⟨x, -, rfl⟩ := hv
    exact ⟨x, rfl⟩

end PolicyBench
