/-
  PolicyBench — written values of a given shape.

  A value that is written for a text, a number and so on is read as that.  The members of
  an object set the fields of a structure one after the other.  If what a member sets does
  not depend on what is set before it, the order does not matter, and members of other
  names change nothing.

  * `IsText.exists_readText`, `IsFloat.exists_readFloat` and others: the values;
  * `Filling`: the structures in which some of the fields are set, by their names;
  * `readMembers_ofList`: the members set the fields that they name;
  * `IsStructure.exists_readStructure`: an object is read as the structure in which the
    fields that it gives are set;
  * `IsObject.exists_refused`: a member that its field refuses makes the object fail.
-/
import PolicyBench.Proofs.Json.Document
import PolicyBench.Proofs.Json.Number

namespace PolicyBench.Json

/-! ## Values -/

theorem IsText.exists_readText {s : String} {cs : List Char} (h : IsText s cs) :
    ∃ d : Document, d.ReadFrom cs ∧ readText d = .ok s := by
  obtain ⟨hcs⟩ := h
  obtain ⟨units, hscans, htext⟩ := hcs.exists_scans
  rw [String.ofList_toList] at htext
  exact ⟨_, hscans.readFrom, htext⟩

theorem textsOfItems_ofList {ss : List String} {ds : List Document}
    (h : List.Forall₂ (fun s d => readText d = .ok s) ss ds) :
    textsOfItems (.ofList ds) = .ok ss := by
  induction h with
  | nil => rfl
  | cons hd _ ih =>
    rw [Items.ofList, textsOfItems, hd, ih]
    rfl

theorem IsTexts.exists_readTexts {ss : List String} {cs : List Char} (h : IsTexts ss cs) :
    ∃ d : Document, d.ReadFrom cs ∧ readTexts d = .ok ss := by
  obtain ⟨harray, hitems⟩ := h
  obtain ⟨ds, hread, htexts⟩ := exists_forall₂ (fun _ _ hi => hi.exists_readText) hitems
  exact ⟨_, harray.readFrom hread, textsOfItems_ofList htexts⟩

theorem IsFloat.exists_readFloat {x : Binary64} {cs : List Char} (h : IsFloat x cs) :
    ∃ d : Document, d.ReadFrom cs ∧ readFloat d = .ok x := by
  obtain ⟨hspelled, hvalue, rfl⟩ := h
  refine ⟨_, hspelled.readFrom, ?_⟩
  rw [readFloat, hvalue]
  rfl

theorem IsNatural.exists_readNatural {k : UInt64} {cs : List Char} (h : IsNatural k cs) :
    ∃ d : Document, d.ReadFrom cs ∧ readNatural d = .ok k := by
  obtain ⟨n, hspelled, hvalue⟩ := h.spelledNumber
  refine ⟨_, hspelled.readFrom, ?_⟩
  rw [readNatural, hvalue]

theorem IsBool.exists_readBool {b : Bool} {cs : List Char} (h : IsBool b cs) :
    ∃ d : Document, d.ReadFrom cs ∧ readBool d = .ok b := by
  obtain ⟨⟩ := h
  exact ⟨_, readFrom_bool b, rfl⟩

/-! ## Structures -/

variable {α : Type}

/-- The names of the fields. -/
def fieldNames (fields : List (Field α)) : List String := fields.map (·.name)

/-- The field with this name, if there is one. -/
theorem find?_field_eq_none_iff {fields : List (Field α)} {name : String} :
    fields.find? (·.name == name) = none ↔ name ∉ fieldNames fields := by
  simp only [List.find?_eq_none, beq_iff_eq, fieldNames, List.mem_map, not_exists, not_and]

theorem find?_field_eq_some {fields : List (Field α)} {name : String} {field : Field α}
    (h : fields.find? (·.name == name) = some field) : field ∈ fields ∧ field.name = name :=
  ⟨List.mem_of_find?_eq_some h, by simpa using List.find?_some h⟩

/-- Whatever is set already, the document sets one field more. -/
def Sets (filled : List String → α) (field : Field α) (d : Document) : Prop :=
  ∀ seen, field.set (filled seen) d = .ok (filled (field.name :: seen))

/-- A field is set to what is read for it. -/
theorem exists_sets {β : Type} {read : Document → Except Fault β} {b : β} {cs : List Char}
    (h : ∃ d : Document, d.ReadFrom cs ∧ read d = .ok b) {filled : List String → α}
    {name : String} {f : α → β → α} (hset : ∀ seen, f (filled seen) b = filled (name :: seen)) :
    ∃ d : Document, d.ReadFrom cs ∧
      Sets filled ⟨name, fun a v => do return f a (← read v)⟩ d := by
  obtain ⟨d, hd, hread⟩ := h
  refine ⟨d, hd, fun seen => ?_⟩
  dsimp only
  rw [hread, ← hset]
  rfl

/-- `filled seen` is the structure in which the fields `seen` are set, each to what `gives`
    relates to its name. -/
structure Filling (fields : List (Field α)) (gives : String → List Char → Prop)
    (filled : List String → α) : Prop where
  sets : ∀ {name cs}, gives name cs → ∃ field, fields.find? (·.name == name) = some field ∧
    ∃ d : Document, d.ReadFrom cs ∧ Sets filled field d
  congr : ∀ {seen seen' : List String}, (∀ n, n ∈ seen ↔ n ∈ seen') → filled seen = filled seen'

/-- What is read from a member sets the field of its name; if there is none, it can be
    skipped. -/
structure MemberSets (fields : List (Field α)) (filled : List String → α) (name : String)
    (p : Quoted × Document) : Prop where
  text : p.1.text = .ok name
  field : ∀ field, fields.find? (·.name == name) = some field → Sets filled field p.2
  other : name ∉ fieldNames fields → p.2.ignoredFault? = none

section
variable {fields : List (Field α)} {gives : String → List Char → Prop}
  {filled : List String → α} (hfilling : Filling fields gives filled)
include hfilling

theorem IsMember.exists_memberSets {name : String} {m : Member}
    (h : IsMember (fieldNames fields) gives name m) :
    ∃ p, m.ReadAs p ∧ MemberSets fields filled name p := by
  obtain ⟨units, hscans, htext⟩ := h.named.exists_scans
  rw [String.ofList_toList] at htext
  suffices hvalue : ∃ d : Document, d.ReadFrom m.item.value ∧
      (∀ field, fields.find? (·.name == name) = some field → Sets filled field d) ∧
      (name ∉ fieldNames fields → d.ignoredFault? = none) by
    obtain ⟨d, hread, hfield, hother⟩ := hvalue
    exact ⟨(⟨units, none⟩, d), ⟨⟨units, hscans, rfl⟩, hread⟩, htext, hfield, hother⟩
  by_cases hname : name ∈ fieldNames fields
  · obtain ⟨field, hfind, d, hread, hsets⟩ := hfilling.sets (h.field hname)
    refine ⟨d, hread, ?_, fun hnot => absurd hname hnot⟩
    rw [hfind]
    rintro _ ⟨⟩
    exact hsets
  · obtain ⟨d, hread, hfault⟩ := (h.other hname).exists_readFrom
    refine ⟨d, hread, ?_, fun _ => hfault⟩
    rw [find?_field_eq_none_iff.2 hname]
    exact nofun

/-- **The members set the fields that they name**, if each is named once and was not set
    before. -/
theorem readMembers_ofList {names : List String} {ps : List (Quoted × Document)}
    (h : List.Forall₂ (MemberSets fields filled) names ps) {seen : List String}
    (hnodup : (names.filter (· ∈ fieldNames fields)).Nodup)
    (hfresh : ∀ n ∈ names, n ∈ fieldNames fields → n ∉ seen) :
    readMembers fields seen (filled seen) (.ofList ps) =
      .ok (filled (names.filter (· ∈ fieldNames fields) ++ seen)) := by
  induction h generalizing seen with
  | nil => rfl
  | @cons name p names ps hp _ ih =>
    obtain ⟨htext, hfield, hother⟩ := hp
    rw [Members.ofList, readMembers, htext]
    dsimp only [bind, Except.bind]
    cases hfind : fields.find? (·.name == name) with
    | none =>
      have hname := find?_field_eq_none_iff.1 hfind
      have hdrop : (name :: names).filter (· ∈ fieldNames fields) =
          names.filter (· ∈ fieldNames fields) :=
        List.filter_cons_of_neg (by simpa using hname)
      rw [hdrop] at hnodup ⊢
      dsimp only
      rw [hother hname]
      exact ih hnodup fun n hn => hfresh n (List.mem_cons_of_mem _ hn)
    | some field =>
      obtain ⟨hmem, rfl⟩ := find?_field_eq_some hfind
      have hname : field.name ∈ fieldNames fields := List.mem_map_of_mem hmem
      have hkeep : (field.name :: names).filter (· ∈ fieldNames fields) =
          field.name :: names.filter (· ∈ fieldNames fields) :=
        List.filter_cons_of_pos (by simpa using hname)
      rw [hkeep] at hnodup ⊢
      obtain ⟨hnew, hnodup⟩ := List.nodup_cons.1 hnodup
      dsimp only
      rw [if_neg (hfresh _ List.mem_cons_self hname), hfield field hfind seen]
      refine (ih hnodup fun n hn hknown hseen => ?_).trans (congrArg _ (hfilling.congr fun n => ?_))
      · rcases List.mem_cons.1 hseen with rfl | hseen
        · exact hnew (List.mem_filter.2 ⟨hn, by simpa using hknown⟩)
        · exact hfresh n (List.mem_cons_of_mem _ hn) hknown hseen
      · simp only [List.mem_append, List.mem_cons]
        tauto

/-- **An object is read as the structure in which the fields that it gives are set**,
    whatever their order and whatever stands between them. -/
theorem IsStructure.exists_readStructure {given : List String} (hgiven : given.Nodup)
    {cs : List Char} (h : IsStructure (fieldNames fields) gives given cs) :
    ∃ d : Document, d.ReadFrom cs ∧ readStructure fields (filled []) d = .ok (filled given) := by
  obtain ⟨names, members, hobject, hmembers, hperm⟩ := h
  obtain ⟨ps, hread, hsets⟩ := exists_forall₂
    (fun _ _ hm => IsMember.exists_memberSets hfilling hm) hmembers
  refine ⟨_, hobject.readFrom hread, ?_⟩
  rw [readStructure, readMembers_ofList hfilling hsets (hperm.nodup_iff.2 hgiven)
    fun _ _ _ => List.not_mem_nil]
  exact congrArg _ (hfilling.congr fun n => by rw [List.append_nil, hperm.mem_iff])

end

/-! ## Members that are refused -/

/-- Whatever is set already, the field cannot be set from the document. -/
def Refuses (field : Field α) (d : Document) : Prop := ∀ a, ∃ fault, field.set a d = .error fault

/-- A field refuses what cannot be read for it. -/
theorem refuses_of_read {β : Type} {read : Document → Except Fault β} {d : Document}
    {fault : Fault} (h : read d = .error fault) {name : String} {f : α → β → α} :
    Refuses ⟨name, fun a v => do return f a (← read v)⟩ d := by
  refine fun a => ⟨fault, ?_⟩
  dsimp only
  rw [h]
  rfl

section
variable {fields : List (Field α)} {name : String} {field : Field α}
  (hfind : fields.find? (·.name == name) = some field)
include hfind

/-- Reading breaks off there, if not before. -/
theorem readMembers_refused {ps : List (Quoted × Document)} {p : Quoted × Document} (hp : p ∈ ps)
    (htext : p.1.text = .ok name) (hrefuses : Refuses field p.2) (seen : List String) (a : α) :
    ∃ fault, readMembers fields seen a (.ofList ps) = .error fault := by
  induction ps generalizing seen a with
  | nil => cases hp
  | cons q ps ih =>
    rw [Members.ofList, readMembers]
    rcases List.mem_cons.1 hp with rfl | hp
    · obtain ⟨fault, hset⟩ := hrefuses a
      rw [htext]
      dsimp only [bind, Except.bind]
      rw [hfind]
      dsimp only
      split
      · exact ⟨_, rfl⟩
      · exact ⟨fault, by rw [hset]⟩
    · cases q.1.text with
      | error fault => exact ⟨fault, rfl⟩
      | ok other =>
        dsimp only [bind, Except.bind]
        cases fields.find? (·.name == other) with
        | none =>
          dsimp only
          split
          · exact ⟨_, rfl⟩
          · exact ih hp seen a
        | some field' =>
          dsimp only
          split
          · exact ⟨_, rfl⟩
          · cases field'.set a q.2 with
            | error fault => exact ⟨fault, rfl⟩
            | ok b => exact ih hp _ b

/-- **A member that its field refuses makes the object fail**, whatever the other members
    are. -/
theorem IsObject.exists_refused {members : List Member} {cs : List Char}
    (h : IsObject members cs)
    (hread : ∀ m ∈ members, ∃ p, m.ReadAs p) {m : Member} (hm : m ∈ members)
    (hname : Spells name.toList m.name)
    (hvalue : ∃ d : Document, d.ReadFrom m.item.value ∧ Refuses field d) :
    ∃ d : Document, d.ReadFrom cs ∧ ∀ a, ∃ fault, readStructure fields a d = .error fault := by
  obtain ⟨before, after, rfl⟩ := List.append_of_mem hm
  have hread' (m : Member) (hm : m ∈ before ++ _ :: after) : ∃ p, m.ReadAs p ∧ True :=
    (hread m hm).imp fun _ hp => ⟨hp, trivial⟩
  obtain ⟨ps, hps, -⟩ := exists_forall₂_of_mem fun m hm =>
    hread' m (List.mem_append_left _ hm)
  obtain ⟨qs, hqs, -⟩ := exists_forall₂_of_mem fun m hm =>
    hread' m (List.mem_append_right _ (List.mem_cons_of_mem _ hm))
  obtain ⟨units, hscans, htext⟩ := hname.exists_scans
  obtain ⟨d, hd, hrefuses⟩ := hvalue
  have hp : m.ReadAs (⟨units, none⟩, d) := ⟨⟨units, hscans, rfl⟩, hd⟩
  rw [String.ofList_toList] at htext
  refine ⟨_, h.readFrom (List.rel_append hps (.cons hp hqs)), fun a => ?_⟩
  exact readMembers_refused hfind (List.mem_append_right _ List.mem_cons_self) htext hrefuses [] a

end

end PolicyBench.Json
