/-
  PolicyBench — what a map says about its names.

  A map is determined by its look-ups, and what stands in it after a list of
  insertions is the last entry for each name.

  * `lookup_of_nodup`: of entries with different names each is found;
  * `get?_eq_some_iff`: the look-ups are the entries;
  * `ext_get?`: maps with the same look-ups are equal;
  * `get?_insertAll`, `get?_ofList`: of several entries for a name the last counts;
  * `mem_names_insertAll`: which names are there then.
-/
import PolicyBench.NameMap

namespace PolicyBench.NameMap

variable {α β : Type}

/-! ## Look-ups and entries -/

theorem mem_of_lookup {name : String} {v : α} {l : List (String × α)}
    (h : lookup name l = some v) : (name, v) ∈ l := by
  induction l with
  | nil => cases h
  | cons hd tl ih =>
    obtain ⟨k, w⟩ := hd
    rw [lookup] at h
    split at h
    · next hk => cases h; subst hk; exact List.mem_cons_self
    · exact List.mem_cons_of_mem _ (ih h)

/-- Of entries with different names each is found. -/
theorem lookup_of_nodup {name : String} {v : α} {l : List (String × α)}
    (hl : (l.map Prod.fst).Nodup) (h : (name, v) ∈ l) : lookup name l = some v := by
  induction l with
  | nil => cases h
  | cons hd tl ih =>
    obtain ⟨k, w⟩ := hd
    rw [List.map_cons, List.nodup_cons] at hl
    rw [lookup]
    rcases List.mem_cons.1 h with heq | h
    · cases heq; simp
    · have hne : k ≠ name := by
        rintro rfl
        exact hl.1 (List.mem_map.2 ⟨(k, v), h, rfl⟩)
      rw [if_neg hne, ih hl.2 h]

theorem nodup_map_fst {l : List (String × α)} (hs : l.Pairwise fun a b => a.1 < b.1) :
    (l.map Prod.fst).Nodup := by
  refine List.pairwise_map.2 (hs.imp fun {a b} hlt heq => ?_)
  exact String.lt_irrefl b.1 (heq ▸ hlt)

theorem lookup_of_mem {name : String} {v : α} {l : List (String × α)}
    (hs : l.Pairwise fun a b => a.1 < b.1) (h : (name, v) ∈ l) : lookup name l = some v :=
  lookup_of_nodup (nodup_map_fst hs) h

theorem get?_eq_some_iff {m : NameMap α} {name : String} {v : α} :
    m.get? name = some v ↔ (name, v) ∈ m.entries :=
  ⟨mem_of_lookup, lookup_of_mem m.sorted⟩

/-- A map is determined by its look-ups. -/
theorem ext_get? {m n : NameMap α} (h : ∀ name, m.get? name = n.get? name) : m = n := by
  have hnodup (l : NameMap α) : l.entries.Nodup :=
    l.sorted.imp fun {a b} (hab : a.1 < b.1) (heq : a = b) => String.lt_irrefl b.1 (heq ▸ hab)
  have hperm : m.entries.Perm n.entries :=
    (List.perm_ext_iff_of_nodup (hnodup m) (hnodup n)).2 fun ⟨name, v⟩ => by
      rw [← get?_eq_some_iff, ← get?_eq_some_iff, h]
  exact ext_entries (hperm.eq_of_pairwise
    (fun a b _ _ hab hba => absurd hba (String.lt_asymm hab)) m.sorted n.sorted)

theorem isEmpty_iff {m : NameMap α} : m.isEmpty = true ↔ ∀ name, m.get? name = none := by
  constructor
  · intro h name
    rw [isEmpty, List.isEmpty_iff] at h
    rw [get?, h, lookup]
  · intro h
    rw [ext_get? (n := empty) fun name => (h name).trans (get?_empty name).symm]
    rfl

theorem isEmpty_iff_names {m : NameMap α} : m.isEmpty = true ↔ ∀ name, name ∉ m.names := by
  rw [isEmpty_iff]
  simp only [mem_names_iff, Bool.not_eq_true, Option.isSome_eq_false_iff,
    Option.isNone_iff_eq_none]

/-! ## Many insertions -/

theorem lookup_append (name : String) (s t : List (String × α)) :
    lookup name (s ++ t) = (lookup name s).or (lookup name t) := by
  induction s with
  | nil => rfl
  | cons hd tl ih => grind [lookup]

/-- After insertions, the last entry for a name is found, or what was there. -/
theorem get?_insertAll (m : NameMap α) (entries : List (String × α)) (name : String) :
    (m.insertAll entries).get? name = (lookup name entries.reverse).or (m.get? name) := by
  induction entries generalizing m with
  | nil => rfl
  | cons hd tl ih =>
    have hstep : m.insertAll (hd :: tl) = (m.insert hd.1 hd.2).insertAll tl := rfl
    rw [hstep, ih, get?_insert, List.reverse_cons, lookup_append, Option.or_assoc]
    grind [lookup]

/-- A map made of entries holds the last one for each name. -/
theorem get?_ofList (entries : List (String × α)) (name : String) :
    (ofList entries).get? name = lookup name entries.reverse := by
  rw [ofList, get?_insertAll, get?_empty, Option.or_none]

theorem mem_names_insertAll {m : NameMap α} {entries : List (String × α)} {name : String} :
    name ∈ (m.insertAll entries).names ↔ name ∈ entries.map Prod.fst ∨ name ∈ m.names := by
  rw [mem_names_iff, mem_names_iff, get?_insertAll, Option.isSome_or, Bool.or_eq_true,
    lookup_isSome_iff, List.map_reverse, List.mem_reverse]

theorem mem_names_ofList {entries : List (String × α)} {name : String} :
    name ∈ (ofList entries).names ↔ name ∈ entries.map Prod.fst := by
  rw [ofList, mem_names_insertAll]
  simp [names, empty]

@[simp] theorem names_map (f : α → β) (m : NameMap α) : (m.map f).names = m.names := by
  simp [names, map]

/-- Entries that agree with a function are found as it says. -/
theorem lookup_of_graph {f : String → Option α} {l : List (String × α)}
    (h : ∀ e ∈ l, f e.1 = some e.2) (name : String) :
    lookup name l = if name ∈ l.map Prod.fst then f name else none := by
  cases hl : lookup name l with
  | none =>
    have hnot : name ∉ l.map Prod.fst := by
      rw [← lookup_isSome_iff, hl]; simp
    rw [if_neg hnot]
  | some v =>
    have hmem := mem_of_lookup hl
    rw [if_pos (List.mem_map_of_mem (f := Prod.fst) hmem), h _ hmem]

end PolicyBench.NameMap
