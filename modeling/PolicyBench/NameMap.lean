/-
  PolicyBench — finite maps keyed by names.

  Metrics and table rows are maps from names to values whose entries are shown
  in the order of their names.  A map is its list of entries, strictly
  increasing by name, so that two maps with the same entries are equal.

  * `NameMap α` is such a list; `get?` looks a name up, `insert` replaces or
    adds an entry, `insertNew` leaves an entry that is there alone;
  * `ofList` builds a map in which a later entry for a name wins;
  * `get?_insert`, `get?_insertNew` say what a look-up finds afterwards.
-/

namespace PolicyBench

/-- A finite map from names to values, in the order of the names. -/
structure NameMap (α : Type) where
  /-- The entries, strictly increasing by name. -/
  entries : List (String × α)
  sorted : entries.Pairwise fun a b => a.1 < b.1

namespace NameMap

variable {α β : Type}

instance [DecidableEq α] : DecidableEq (NameMap α) := fun m n =>
  decidable_of_iff (m.entries = n.entries)
    ⟨fun h => by cases m; cases n; simp_all, fun h => by rw [h]⟩

theorem ext_entries {m n : NameMap α} (h : m.entries = n.entries) : m = n := by
  cases m; cases n; simp_all

/-! ## Entries in order -/

/-- Look-up in a list of entries. -/
def lookup (name : String) : List (String × α) → Option α
  | [] => none
  | (k, v) :: rest => if k = name then some v else lookup name rest

/-- Insertion into a list of entries, in front of the first greater name. -/
def insertEntry (name : String) (value : α) : List (String × α) → List (String × α)
  | [] => [(name, value)]
  | (k, v) :: rest =>
    if name < k then (name, value) :: (k, v) :: rest
    else if k = name then (name, value) :: rest
    else (k, v) :: insertEntry name value rest

theorem mem_insertEntry {name : String} {value : α} {e : String × α} {l : List (String × α)}
    (h : e ∈ insertEntry name value l) : e = (name, value) ∨ e ∈ l := by
  induction l with
  | nil => simpa [insertEntry] using h
  | cons hd tl ih => grind [insertEntry]

theorem lookup_insertEntry (name : String) (value : α) (other : String)
    (l : List (String × α)) :
    lookup other (insertEntry name value l) =
      if other = name then some value else lookup other l := by
  induction l with
  | nil => grind [insertEntry, lookup]
  | cons hd tl ih => grind [insertEntry, lookup]

theorem lt_of_not_lt_of_ne {a b : String} (h : ¬ a < b) (hne : b ≠ a) : b < a :=
  Decidable.byContradiction fun hba => hne (String.le_antisymm h hba)

theorem sorted_insertEntry (name : String) (value : α) {l : List (String × α)}
    (h : l.Pairwise fun a b => a.1 < b.1) :
    (insertEntry name value l).Pairwise fun a b => a.1 < b.1 := by
  induction l with
  | nil => simp [insertEntry]
  | cons hd tl ih =>
    obtain ⟨k, v⟩ := hd
    obtain ⟨hhd, htl⟩ := List.pairwise_cons.1 h
    rw [insertEntry]
    split
    · next hlt =>
      refine List.pairwise_cons.2 ⟨fun e he => ?_, h⟩
      rcases List.mem_cons.1 he with rfl | he
      · exact hlt
      · exact String.lt_trans hlt (hhd e he)
    · next hlt =>
      split
      · next heq => exact List.pairwise_cons.2 ⟨fun e he => heq ▸ hhd e he, htl⟩
      · next hne =>
        refine List.pairwise_cons.2 ⟨fun e he => ?_, ih htl⟩
        rcases mem_insertEntry he with rfl | he
        · exact lt_of_not_lt_of_ne hlt hne
        · exact hhd e he

/-! ## Maps -/

/-- The map without entries. -/
def empty : NameMap α := ⟨[], List.Pairwise.nil⟩

instance : Inhabited (NameMap α) := ⟨empty⟩

/-- The value stored under `name`. -/
def get? (m : NameMap α) (name : String) : Option α := lookup name m.entries

/-- The names that have a value, in order. -/
def names (m : NameMap α) : List String := m.entries.map Prod.fst

/-- Whether no name has a value. -/
def isEmpty (m : NameMap α) : Bool := m.entries.isEmpty

/-- Stores `value` under `name`, in place of any value there. -/
def insert (m : NameMap α) (name : String) (value : α) : NameMap α :=
  ⟨insertEntry name value m.entries, sorted_insertEntry name value m.sorted⟩

/-- Stores `value` under `name` unless there is a value already. -/
def insertNew (m : NameMap α) (name : String) (value : α) : NameMap α :=
  if (m.get? name).isSome then m else m.insert name value

/-- Stores all `entries` in turn; of two for one name the later wins. -/
def insertAll (m : NameMap α) (entries : List (String × α)) : NameMap α :=
  entries.foldl (fun m e => m.insert e.1 e.2) m

/-- The map of `entries`; of two for one name the later wins. -/
def ofList (entries : List (String × α)) : NameMap α := empty.insertAll entries

/-- The map with every value replaced by its image. -/
def map (f : α → β) (m : NameMap α) : NameMap β where
  entries := m.entries.map fun e => (e.1, f e.2)
  sorted := List.pairwise_map.2 m.sorted

@[simp] theorem get?_empty (name : String) : (empty : NameMap α).get? name = none := rfl

theorem get?_insert (m : NameMap α) (name : String) (value : α) (other : String) :
    (m.insert name value).get? other = if other = name then some value else m.get? other :=
  lookup_insertEntry name value other m.entries

@[simp] theorem get?_insert_self (m : NameMap α) (name : String) (value : α) :
    (m.insert name value).get? name = some value := by
  simp [get?_insert]

theorem get?_insertNew (m : NameMap α) (name : String) (value : α) (other : String) :
    (m.insertNew name value).get? other =
      (m.get? other).or (if other = name then some value else none) := by
  unfold insertNew
  split
  · next h => by_cases hn : other = name <;> simp_all [Option.isSome_iff_exists]; grind
  · next h => rw [get?_insert]; split <;> simp_all

theorem lookup_map (f : α → β) (name : String) (l : List (String × α)) :
    lookup name (l.map fun e => (e.1, f e.2)) = (lookup name l).map f := by
  induction l with
  | nil => rfl
  | cons hd tl ih => grind [lookup]

theorem get?_map (f : α → β) (m : NameMap α) (name : String) :
    (m.map f).get? name = (m.get? name).map f :=
  lookup_map f name m.entries

theorem lookup_isSome_iff {name : String} {l : List (String × α)} :
    (lookup name l).isSome = true ↔ name ∈ l.map Prod.fst := by
  induction l with
  | nil => simp [lookup]
  | cons hd tl ih => grind [lookup]

theorem mem_names_iff {m : NameMap α} {name : String} :
    name ∈ m.names ↔ (m.get? name).isSome = true :=
  lookup_isSome_iff.symm

end NameMap

end PolicyBench
