/-
  PolicyBench — the names of a set of runs, merged.

  The metrics of each run come in the order of their names.  Merged, equal names
  stand side by side, so that dropping repeats leaves each name once; the result
  does not tell any more which run a name came from.

  * `mergeNames_eq`: merging is that of the library;
  * `mem_mergeAll`, `sorted_mergeAll`: all names are there, in order;
  * `mem_dropRepeats`, `increasing_dropRepeats`: and then each of them once;
  * `eq_of_increasing`: names in order are determined by which there are;
  * `rawColumns_eq_names`: the columns of the runs are the names of one map made of all
    their metrics; so `mem_rawColumns` and `rawColumns_increasing`.
-/
import PolicyBench.Proofs.NameMap
import PolicyBench.Table.Runs

namespace PolicyBench

variable {name : String} {names others : List String} {lists : List (List String)}

/-! ## Merging -/

/-- Of two equal names that of the first list comes first. -/
theorem mergeNames_eq (names others : List String) :
    mergeNames names others = names.merge others fun a b => decide (a ≤ b) := by
  induction names generalizing others with
  | nil => rw [mergeNames, List.nil_merge]
  | cons name names ih =>
    rw [mergeNames]
    induction others with
    | nil =>
      rw [List.takeWhile_nil, List.dropWhile_nil, ih, List.merge_right, List.merge_right,
        List.nil_append]
    | cons other others ihOthers =>
      let before : String → Bool := fun a => decide (a < name)
      by_cases hlt : other < name
      · have hbefore : before other = true := decide_eq_true hlt
        have hle : ¬ decide (name ≤ other) = true := fun h => of_decide_eq_true h hlt
        rw [List.takeWhile_cons_of_pos hbefore, List.dropWhile_cons_of_pos hbefore,
          List.cons_append, ihOthers, List.cons_merge_cons_neg _ _ _ hle]
      · have hbefore : ¬ before other = true := mt of_decide_eq_true hlt
        have hle : decide (name ≤ other) = true := decide_eq_true hlt
        rw [List.takeWhile_cons_of_neg hbefore, List.dropWhile_cons_of_neg hbefore,
          List.nil_append, ih, List.cons_merge_cons_pos _ _ _ hle]

theorem mem_mergeNames : name ∈ mergeNames names others ↔ name ∈ names ∨ name ∈ others := by
  rw [mergeNames_eq, List.mem_merge]

theorem sorted_mergeNames (h : names.Pairwise (· ≤ ·)) (h' : others.Pairwise (· ≤ ·)) :
    (mergeNames names others).Pairwise (· ≤ ·) := by
  rw [mergeNames_eq]
  have hmerge := @List.pairwise_merge String (fun a b => decide (a ≤ b))
    (fun a b c hab hbc => decide_eq_true (String.le_trans (of_decide_eq_true hab)
      (of_decide_eq_true hbc)))
    (fun a b => by simpa using String.le_total a b) names others
  simp only [decide_eq_true_eq] at hmerge
  exact hmerge h h'

theorem mem_mergeAll : name ∈ mergeAll lists ↔ ∃ names ∈ lists, name ∈ names := by
  unfold mergeAll
  induction lists with
  | nil => simp
  | cons names lists ih => simp [mem_mergeNames, ih]

theorem sorted_mergeAll (h : ∀ names ∈ lists, names.Pairwise (· ≤ ·)) :
    (mergeAll lists).Pairwise (· ≤ ·) := by
  unfold mergeAll
  induction lists with
  | nil => exact .nil
  | cons names lists ih =>
    obtain ⟨hnames, hlists⟩ := List.forall_mem_cons.1 h
    exact sorted_mergeNames hnames (ih hlists)

/-! ## Repeats -/

theorem mem_dropRepeats : name ∈ dropRepeats names ↔ name ∈ names := by
  fun_induction dropRepeats names with
  | case1 => rfl
  | case2 => rfl
  | case3 first rest ih => rw [ih, List.mem_cons (l := first :: rest)]; simp
  | case4 first next rest _ ih => rw [List.mem_cons, ih, List.mem_cons (l := next :: rest)]

/-- Where equal names stand side by side, each is left once. -/
theorem increasing_dropRepeats (h : names.Pairwise (· ≤ ·)) :
    (dropRepeats names).Pairwise (· < ·) := by
  fun_induction dropRepeats names with
  | case1 => exact .nil
  | case2 => exact List.pairwise_singleton _ _
  | case3 first rest ih => exact ih h.of_cons
  | case4 first next rest hne ih =>
    refine List.pairwise_cons.2 ⟨fun name hname => ?_, ih h.of_cons⟩
    have hnext : first ≤ next := List.rel_of_pairwise_cons h List.mem_cons_self
    refine String.not_le.1 fun hback => hne (String.le_antisymm hnext ?_)
    rcases List.mem_cons.1 (mem_dropRepeats.1 hname) with rfl | hmem
    · exact hback
    · exact String.le_trans (List.rel_of_pairwise_cons h.of_cons hmem) hback

/-! ## Names in order -/

theorem nodup_of_increasing (h : names.Pairwise (· < ·)) : names.Nodup := by
  refine h.imp fun {a b} hlt => ?_
  rintro rfl
  exact String.lt_irrefl a hlt

/-- Names in order are determined by which there are. -/
theorem eq_of_increasing (h : names.Pairwise (· < ·)) (h' : others.Pairwise (· < ·))
    (hmem : ∀ name, name ∈ names ↔ name ∈ others) : names = others := by
  have hperm :=
    (List.perm_ext_iff_of_nodup (nodup_of_increasing h) (nodup_of_increasing h')).2 hmem
  exact hperm.eq_of_pairwise (fun a b _ _ hab hba => absurd hba (String.lt_asymm hab)) h h'

theorem NameMap.names_increasing {α : Type} (m : NameMap α) : m.names.Pairwise (· < ·) :=
  List.pairwise_map.2 m.sorted

/-! ## Columns -/

variable {runs : List Run}

/-- **The columns are the names of one map**, into which the metrics of all runs go. -/
theorem rawColumns_eq_names (runs : List Run) :
    rawColumns runs = (NameMap.ofList (runs.flatMap (·.metrics.entries))).names := by
  have hsorted : ∀ names ∈ runs.map (·.metrics.names), names.Pairwise (· ≤ ·) := by
    intro names hnames
    obtain ⟨run, -, rfl⟩ := List.mem_map.1 hnames
    exact run.metrics.names_increasing.imp fun {a b} hlt => String.not_lt.1 (String.lt_asymm hlt)
  refine eq_of_increasing (increasing_dropRepeats (sorted_mergeAll hsorted))
    (NameMap.names_increasing _) fun name => ?_
  rw [rawColumns, mem_dropRepeats, mem_mergeAll, NameMap.mem_names_ofList, List.map_flatMap,
    List.mem_flatMap]
  constructor
  · rintro ⟨_, hnames, hname⟩
    obtain ⟨run, hrun, rfl⟩ := List.mem_map.1 hnames
    exact ⟨run, hrun, hname⟩
  · rintro ⟨run, hrun, hname⟩
    exact ⟨_, List.mem_map_of_mem hrun, hname⟩

theorem mem_rawColumns : name ∈ rawColumns runs ↔ ∃ run ∈ runs, name ∈ run.metrics.names := by
  rw [rawColumns_eq_names, NameMap.mem_names_ofList, List.map_flatMap, List.mem_flatMap]
  rfl

theorem rawColumns_increasing (runs : List Run) : (rawColumns runs).Pairwise (· < ·) := by
  rw [rawColumns_eq_names]
  exact NameMap.names_increasing _

theorem rawColumns_nodup (runs : List Run) : (rawColumns runs).Nodup :=
  nodup_of_increasing (rawColumns_increasing runs)

end PolicyBench
