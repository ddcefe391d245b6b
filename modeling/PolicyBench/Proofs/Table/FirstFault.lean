/-
  PolicyBench — which rows form a table, and which row is refused.

  Rows form a table if no policy comes twice and every value is in a column.  Else
  the first row at fault is named: for its policy, if an earlier row has that, and
  otherwise for its least name that heads no column.  The table of runs has a column
  for each of their values, so that runs are refused for a policy only.

  * `Repeats`, `AtFault`: what a row is refused for;
  * `FaultAt`: what is told of a row at fault, and `LeastOutside`: the name among
    those outside the columns that is told;
  * `Table.ofRows_eq_error_iff_faultAt`, `Table.value_ofRuns_eq_error_iff`: the row,
    and the run, that is named;
  * `formed_or_first_fault`: the conditions under which rows and runs form a table,
    and what is told otherwise.
-/
import Mathlib.Order.Bounds.Basic
import PolicyBench.Proofs.Table.Runs
import PolicyBench.Proofs.Text.Utf8Order

namespace PolicyBench

/-! ## Places in a list -/

section
variable {α : Type} {name : α → String} {l : List α} {n : Nat}

/-- An index is the least of its kind exactly if no smaller one is of it. -/
theorem isLeast_iff_forall_lt {P : Fin n → Prop} {i : Fin n} :
    IsLeast {i | P i} i ↔ P i ∧ ∀ j < i, ¬ P j := by
  refine and_congr_right fun _ => forall_congr' fun j => ?_
  rw [Set.mem_ofPred_eq, ← Fin.not_lt, imp_not_comm]

/-- A list is split at an index. -/
theorem exists_split_iff_index {R : List α → α → Prop} :
    (∃ before x after, l = before ++ x :: after ∧ R before x) ↔
      ∃ i : Fin l.length, R (l.take i) l[i] := by
  constructor
  · rintro ⟨before, x, after, rfl, hR⟩
    refine ⟨⟨before.length, by simp⟩, ?_⟩
    simpa using hR
  · rintro ⟨i, hR⟩
    exact ⟨l.take i, l[i], l.drop (i + 1), by simp, hR⟩

theorem mem_take_iff_index {x : α} : x ∈ l.take n ↔ ∃ i : Fin l.length, i < n ∧ l[i] = x := by
  rw [List.mem_take_iff_getElem]
  constructor
  · rintro ⟨i, hi, rfl⟩
    obtain ⟨hin, hil⟩ := Nat.lt_min.1 hi
    exact ⟨⟨i, hil⟩, hin, rfl⟩
  · rintro ⟨i, hi, rfl⟩
    exact ⟨i, Nat.lt_min.2 ⟨hi, i.2⟩, rfl⟩

/-- The name at `i` is also at an earlier place. -/
def Repeats (name : α → String) (l : List α) (i : Fin l.length) : Prop :=
  ∃ j < i, name l[j] = name l[i]

theorem repeats_iff_mem_take {i : Fin l.length} :
    Repeats name l i ↔ name l[i] ∈ (l.take i).map name := by
  simp only [List.mem_map, mem_take_iff_index]
  constructor
  · rintro ⟨j, hj, heq⟩
    exact ⟨_, ⟨j, hj, rfl⟩, heq⟩
  · rintro ⟨_, ⟨j, hj, rfl⟩, heq⟩
    exact ⟨j, hj, heq⟩

/-- The first `n` names are distinct exactly if none of them repeats one before it. -/
theorem nodup_take_iff :
    ((l.take n).map name).Nodup ↔ ∀ i : Fin l.length, i < n → ¬ Repeats name l i := by
  rw [List.Nodup, List.pairwise_map, List.pairwise_iff_getElem]
  simp only [List.getElem_take, List.length_take, Nat.lt_min]
  constructor
  · rintro h i hi ⟨j, hj, heq⟩
    exact h j i ⟨Nat.lt_trans hj hi, j.2⟩ ⟨hi, i.2⟩ hj heq
  · intro h j i hj hi hlt heq
    exact h ⟨i, hi.2⟩ hi.1 ⟨⟨j, hj.2⟩, hlt, heq⟩

/-- Names are not distinct exactly if two places share one. -/
theorem not_nodup_map_iff :
    ¬ (l.map name).Nodup ↔ ∃ i j : Fin l.length, i ≠ j ∧ name l[i] = name l[j] := by
  have hnodup : ((l.take l.length).map name).Nodup ↔
      ∀ i : Fin l.length, i < l.length → ¬ Repeats name l i := nodup_take_iff
  rw [List.take_length] at hnodup
  simp only [hnodup, Fin.is_lt, true_imp_iff, not_forall, not_not]
  constructor
  · rintro ⟨i, j, hlt, heq⟩
    exact ⟨j, i, Fin.ne_of_lt hlt, heq⟩
  · rintro ⟨i, j, hne, heq⟩
    rcases Fin.lt_or_lt_of_ne hne with hlt | hlt
    · exact ⟨j, i, hlt, heq⟩
    · exact ⟨i, j, hlt, heq.symm⟩

end

/-! ## Rows at fault -/

/-- The row at `i` has the policy of an earlier one, or a value outside the columns. -/
def AtFault (columns : List String) (rows : List Row) (i : Fin rows.length) : Prop :=
  Repeats Row.policy rows i ∨ ∃ name ∈ rows[i].values.names, name ∉ columns

/-- Of the names in the row that head no column, `name` is the least by its bytes. -/
structure LeastOutside (columns : List String) (row : Row) (name : String) : Prop where
  mem : name ∈ row.values.names
  outside : name ∉ columns
  least : ∀ other ∈ row.values.names, other ∉ columns → other ≠ name →
    Text.utf8 name < Text.utf8 other

/-- What is told of the row at `i`: that its policy comes again, and only if it does
    not, which value is outside the columns. -/
inductive FaultAt (columns : List String) (rows : List Row) (i : Fin rows.length) :
    TableError → Prop
  | repeated : Repeats Row.policy rows i → FaultAt columns rows i (.repeatedPolicy rows[i].policy)
  | outside {name : String} : ¬ Repeats Row.policy rows i → LeastOutside columns rows[i] name →
    FaultAt columns rows i (.unknownColumn rows[i].policy name)

section
variable {columns earlier : List String} {row : Row} {rows : List Row} {problem : TableError}

theorem FaultAt.atFault {i : Fin rows.length} (h : FaultAt columns rows i problem) :
    AtFault columns rows i := by
  cases h with
  | repeated hrepeats => exact .inl hrepeats
  | outside _ hname => exact .inr ⟨_, hname.mem, hname.outside⟩

theorem LeastOutside.unique {name other : String} (h : LeastOutside columns row name)
    (h' : LeastOutside columns row other) : name = other := by
  refine Decidable.byContradiction fun hne => ?_
  exact List.lt_asymm (h.least other h'.mem h'.outside (Ne.symm hne))
    (h'.least name h.mem h.outside hne)

/-- The first name outside the columns is the least, since the names are in order. -/
theorem leastOutside_of_find? {name : String}
    (h : row.values.names.find? (· ∉ columns) = some name) : LeastOutside columns row name := by
  obtain ⟨houtside, before, after, hnames, hbefore⟩ := List.find?_eq_some_iff_append.1 h
  have hsorted : (before ++ name :: after).Pairwise (· < ·) :=
    hnames ▸ List.pairwise_map.2 row.values.sorted
  have hafter := (List.pairwise_cons.1 (List.pairwise_append.1 hsorted).2.1).1
  refine ⟨List.mem_of_find?_eq_some h, by simpa using houtside, fun other hother hout hne => ?_⟩
  rw [hnames] at hother
  rcases List.mem_append.1 hother with hmem | hmem
  · exact absurd (by simpa using hbefore other hmem) hout
  · exact Text.utf8_lt_utf8 (hafter other ((List.mem_cons.1 hmem).resolve_left hne))

theorem find?_names_eq_some_iff {name : String} :
    row.values.names.find? (· ∉ columns) = some name ↔ LeastOutside columns row name := by
  refine ⟨leastOutside_of_find?, fun h => ?_⟩
  cases hfind : row.values.names.find? (· ∉ columns) with
  | none =>
    have hnone := List.find?_eq_none.1 hfind name h.mem
    exact absurd h.outside (by simpa using hnone)
  | some other =>
    -- what is found is a least name too, and there is only one
    rw [(leastOutside_of_find? hfind).unique h]

namespace Table

theorem fault?_eq_some_iff : fault? columns earlier row = some problem ↔
    (row.policy ∈ earlier ∧ problem = .repeatedPolicy row.policy) ∨
      row.policy ∉ earlier ∧ ∃ name, LeastOutside columns row name ∧
        problem = .unknownColumn row.policy name := by
  unfold fault?
  split
  · next h =>
    rw [and_iff_right h, or_iff_left fun h' => h'.1 h, Option.some.injEq, eq_comm]
  · next h =>
    rw [and_iff_right h, or_iff_right fun h' => h h'.1, Option.map_eq_some_iff]
    simp only [find?_names_eq_some_iff, eq_comm (a := problem)]

/-- The first rows are not refused exactly if none of them is at fault. -/
theorem firstFault?_take_eq_none_iff {n : Nat} :
    firstFault? columns [] (rows.take n) = none ↔
      ∀ i : Fin rows.length, i < n → ¬ AtFault columns rows i := by
  have hcovered : (∀ row ∈ rows.take n, ∀ name ∈ row.values.names, name ∈ columns) ↔
      ∀ i : Fin rows.length, i < n → ¬ ∃ name ∈ rows[i].values.names, name ∉ columns := by
    simp only [mem_take_iff_index, not_exists, not_and, not_not]
    constructor
    · intro h i hi
      exact h _ ⟨i, hi, rfl⟩
    · rintro h _ ⟨i, hi, rfl⟩
      exact h i hi
  rw [firstFault?_eq_none_iff, ← List.pairwise_map, ← List.Nodup, nodup_take_iff, hcovered]
  simp only [AtFault, not_or, imp_and, forall_and, List.not_mem_nil, not_false_eq_true,
    implies_true, true_and]

/-- What is wrong with a row behind those before it. -/
theorem fault?_take_eq_some_iff {i : Fin rows.length} :
    fault? columns ((rows.take i).map (·.policy)).reverse rows[i] = some problem ↔
      FaultAt columns rows i problem := by
  rw [fault?_eq_some_iff, List.mem_reverse, ← repeats_iff_mem_take]
  constructor
  · rintro (⟨hrepeats, rfl⟩ | ⟨hnew, name, hname, rfl⟩)
    · exact .repeated hrepeats
    · exact .outside hnew hname
  · rintro (hrepeats | ⟨hnew, hname⟩)
    · exact .inl ⟨hrepeats, rfl⟩
    · exact .inr ⟨hnew, _, hname, rfl⟩

/-- Rows are refused exactly for what is wrong with the first of them at fault. -/
theorem ofRows_eq_error_iff_faultAt :
    ofRows columns rows = .error problem ↔
      ∃ i, IsLeast {i | AtFault columns rows i} i ∧ FaultAt columns rows i problem := by
  -- the rows before the first at fault are those in front of its index
  rw [ofRows_eq_error_iff, firstFault?_eq_some_iff, exists_split_iff_index]
  refine exists_congr fun i => ?_
  rw [List.append_nil, firstFault?_take_eq_none_iff, fault?_take_eq_some_iff,
    isLeast_iff_forall_lt]
  refine and_congr_left fun h => ?_
  exact (and_iff_right h.atFault).symm

/-- The policy is told before the values of the same row, and the least of these names. -/
example :
    let row (policy : String) (names : List String) : Row :=
      ⟨policy, NameMap.ofList (names.map (·, .count 1))⟩
    firstFault? ["x"] [] [row "a" ["x"], row "a" ["y"], row "b" ["z", "y"]] =
      some (.repeatedPolicy "a") ∧
    firstFault? ["x"] [] [row "a" ["x"], row "b" ["z", "y"], row "a" ["x"]] =
      some (.unknownColumn "b" "y") := by
  decide +kernel

end Table

end

/-! ## Tables of runs -/

section
variable {timing : Timing} {runs : List Run} {problem : TableError}

namespace Table

/-- Runs are refused exactly for the first policy that comes again. -/
theorem value_ofRuns_eq_error_iff :
    (Table.ofRuns timing runs).value = .error problem ↔
      ∃ i, IsLeast {i | Repeats Run.policy runs i} i ∧
        problem = .repeatedPolicy runs[i].policy := by
  refine (ofRows_eq_error_iff_of_covered (covered_rowsOf timing runs)).trans ?_
  rw [map_policy_rowsOf, exists_split_map_iff, exists_split_iff_index]
  refine exists_congr fun i => ?_
  rw [nodup_take_iff, ← repeats_iff_mem_take, isLeast_iff_forall_lt, and_left_comm, and_assoc]
  rfl

/-- Runs form no table exactly if two of them share a policy. -/
theorem exists_value_ofRuns_eq_error_iff :
    (∃ problem, (Table.ofRuns timing runs).value = .error problem) ↔
      ∃ i j : Fin runs.length, i ≠ j ∧ runs[i].policy = runs[j].policy := by
  rw [exists_eq_error_iff, ← not_exists, exists_value_ofRuns_eq_ok_iff]
  exact not_nodup_map_iff

end Table

end

/-! ## What is refused -/

/-- **Rows form a table, or the first of them at fault is named.**  They form one
    exactly if their policies are distinct and every value is in a column; it has
    those columns and rows, and each row is found under its policy.  Else the first
    row that repeats a policy or has a value outside the columns is named, for its
    policy before a value, and for the least of such names.  Runs form a table
    exactly if no two share a policy, and else the first that repeats one is named,
    never a value. -/
theorem formed_or_first_fault (columns : List String) (rows : List Row) (timing : Timing)
    (runs : List Run) :
    ((∃ table, Table.ofRows columns rows = .ok table) ↔
      (rows.map (·.policy)).Nodup ∧ ∀ row ∈ rows, ∀ name ∈ row.values.names, name ∈ columns) ∧
    (∀ table, Table.ofRows columns rows = .ok table →
      table.columns = columns ∧ table.rows = rows ∧
        ∀ row ∈ rows, table.row? row.policy = some row) ∧
    (∀ problem, Table.ofRows columns rows = .error problem ↔
      ∃ i, IsLeast {i | AtFault columns rows i} i ∧ FaultAt columns rows i problem) ∧
    ((∃ problem, (Table.ofRuns timing runs).value = .error problem) ↔
      ∃ i j : Fin runs.length, i ≠ j ∧ runs[i].policy = runs[j].policy) ∧
    (∀ problem, (Table.ofRuns timing runs).value = .error problem ↔
      ∃ i, IsLeast {i | Repeats Run.policy runs i} i ∧
        problem = .repeatedPolicy runs[i].policy) ∧
    ∀ policy column, (Table.ofRuns timing runs).value ≠ .error (.unknownColumn policy column) := by
  refine ⟨?_, fun table htable => ?_, fun problem => Table.ofRows_eq_error_iff_faultAt,
    Table.exists_value_ofRuns_eq_error_iff, fun problem => Table.value_ofRuns_eq_error_iff,
    fun policy column hproblem => ?_⟩
  · rw [Table.exists_ofRows_eq_ok_iff, List.Nodup, List.pairwise_map]
  · obtain ⟨hcolumns, hrows⟩ := Table.ofRows_eq_ok_iff.1 htable
    exact ⟨hcolumns, hrows, fun row hrow => Table.row?_of_mem (hrows ▸ hrow)⟩
  · obtain ⟨i, -, hname⟩ := Table.value_ofRuns_eq_error_iff.1 hproblem
    cases hname

end PolicyBench
