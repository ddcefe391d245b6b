/-
  PolicyBench — the way that a path takes.

  Behind a directory a relative path goes on where the directory ends, so that
  the components of the two follow each other, however many slashes there are
  between them.

  * `partsComponents`: the components that a text stands for behind a directory;
  * `components_join`: a path seen from a directory goes through the directory
    first, unless it starts at the root or with a dot;
  * `components_of_isFileName`: a plain file name is a single component.
-/
import PolicyBench.Path

namespace PolicyBench

/-! ## Parts -/

namespace Text

/-- The parts of two texts with a separator between them. -/
theorem parts_append_sep (sep : Char) (s t : List Char) :
    parts sep (s ++ sep :: t) = parts sep s ++ parts sep t := by
  induction s with
  | nil => simp [parts]
  | cons c s ih =>
    by_cases hc : c = sep
    · simp [parts, hc, ih]
    · obtain ⟨p, ps, hp, hcons⟩ := parts_cons_of_ne hc s
      rw [List.cons_append, parts, if_neg hc, ih, hp, hcons]
      rfl

/-- A text without the separator is its only part. -/
theorem parts_of_notMem {sep : Char} {s : List Char} (h : sep ∉ s) : parts sep s = [s] := by
  induction s with
  | nil => rfl
  | cons c s ih =>
    rw [List.mem_cons, not_or] at h
    rw [parts, if_neg (Ne.symm h.1), ih h.2]

/-- The first part is what stands before the first separator. -/
theorem head?_parts (sep : Char) (s : List Char) :
    (parts sep s).head? = some (s.takeWhile (· ≠ sep)) := by
  induction s with
  | nil => rfl
  | cons c s ih =>
    by_cases hc : c = sep
    · simp [parts, hc]
    · obtain ⟨p, ps, hp, hcons⟩ := parts_cons_of_ne hc s
      rw [hp, List.head?_cons, Option.some.injEq] at ih
      rw [hcons, List.head?_cons, List.takeWhile_cons_of_pos (by simpa using hc), ih]

end Text

/-! ## Components -/

namespace Path

theorem componentOf_eq_none_iff {part : List Char} :
    componentOf part = none ↔ part = [] ∨ part = ['.'] := by
  unfold componentOf
  split <;> simp_all

/-- Every other part but two dots is the name of an entry. -/
theorem componentOf_eq_some_named_iff {part : List Char} {entry : String} :
    componentOf part = some (.named entry) ↔
      part ≠ [] ∧ part ≠ ['.'] ∧ part ≠ ['.', '.'] ∧ entry = String.ofList part := by
  unfold componentOf
  split
  · simp
  · simp
  · simp
  · next h1 h2 h3 =>
    rw [Option.some.injEq, Component.named.injEq]
    exact ⟨fun h => ⟨h1, h2, h3, h.symm⟩, fun h => h.2.2.2.symm⟩

/-- The components that a text stands for behind a directory. -/
def partsComponents (s : String) : List Component :=
  (Text.parts '/' s.toList).filterMap componentOf

/-- Behind a slash the components are those of the parts. -/
theorem components_append_slash (s t : String) :
    components ⟨s ++ "/" ++ t⟩ = components ⟨s ++ "/"⟩ ++ partsComponents t := by
  have hparts (t : String) : Text.parts '/' (s ++ "/" ++ t).toList =
      Text.parts '/' s.toList ++ Text.parts '/' t.toList := by
    rw [← Text.parts_append_sep]
    simp
  have hslash : Text.parts '/' (s ++ "/").toList = Text.parts '/' s.toList ++ [[]] := by
    simpa [Text.parts] using hparts ""
  have habsolute : isAbsolute ⟨s ++ "/" ++ t⟩ = isAbsolute ⟨s ++ "/"⟩ := by
    simp only [isAbsolute, String.toList_append, List.append_assoc]
    cases s.toList <;> rfl
  obtain ⟨first, rest, hs⟩ := List.exists_cons_of_ne_nil (Text.parts_ne_nil '/' s.toList)
  simp only [components, hparts, hslash, habsolute, hs, List.cons_append, List.filterMap_append,
    partsComponents, List.append_assoc]
  rfl

/-- A slash at the end adds nothing. -/
theorem components_append_slash_nil {s : String} (h : s ≠ "") :
    components ⟨s ++ "/"⟩ = components ⟨s⟩ := by
  have hparts : Text.parts '/' (s ++ "/").toList = Text.parts '/' s.toList ++ [[]] := by
    rw [String.toList_append]
    exact Text.parts_append_sep '/' s.toList []
  have habsolute : isAbsolute ⟨s ++ "/"⟩ = isAbsolute ⟨s⟩ := by
    obtain ⟨c, cs, hs⟩ := List.exists_cons_of_ne_nil (mt String.toList_eq_nil_iff.1 h)
    simp [isAbsolute, hs]
  obtain ⟨first, rest, hs⟩ := List.exists_cons_of_ne_nil (Text.parts_ne_nil '/' s.toList)
  simp only [components, hparts, habsolute, hs, List.cons_append, List.filterMap_append]
  rw [show [[]].filterMap componentOf = [] from rfl, List.append_nil]

theorem root_mem_components {q : String} (h : isAbsolute ⟨q⟩ = true) :
    .root ∈ components ⟨q⟩ := by
  obtain ⟨first, rest, hq⟩ := List.exists_cons_of_ne_nil (Text.parts_ne_nil '/' q.toList)
  simp [components, hq, h]

/-- A path that starts neither at the root nor with a dot has the components of
    its parts. -/
theorem components_eq_partsComponents {q : String} (hroot : .root ∉ components ⟨q⟩)
    (hcurrent : .current ∉ components ⟨q⟩) : components ⟨q⟩ = partsComponents q := by
  have hrelative := mt root_mem_components hroot
  obtain ⟨first, rest, hq⟩ := List.exists_cons_of_ne_nil (Text.parts_ne_nil '/' q.toList)
  have hdot : first ≠ ['.'] := by
    rintro rfl
    simp [components, hq, hrelative] at hcurrent
  rw [partsComponents, components, hq]
  dsimp only
  rw [if_neg hrelative, if_neg hdot, List.filterMap_cons]
  cases componentOf first <;> rfl

/-- **A path seen from a directory goes through the directory first.** -/
theorem components_join {p : Path} {q : String} (hroot : .root ∉ components ⟨q⟩)
    (hcurrent : .current ∉ components ⟨q⟩) :
    (p.join q).components = p.components ++ components ⟨q⟩ := by
  have hrelative := mt root_mem_components hroot
  obtain ⟨text⟩ := p
  rw [join, if_neg hrelative]
  by_cases hempty : text = ""
  · subst hempty
    rfl
  rw [components_eq_partsComponents hroot hcurrent]
  split
  · next hlast =>
    have hlist : text.toList ≠ [] := mt String.toList_eq_nil_iff.1 hempty
    rw [List.getLast?_eq_some_getLast hlist, Option.all_some, beq_iff_eq] at hlast
    obtain ⟨s, rfl⟩ : ∃ s : String, text = s ++ "/" := by
      refine ⟨String.ofList text.toList.dropLast, String.toList_inj.1 ?_⟩
      rw [String.toList_append, String.toList_ofList]
      conv => lhs; rw [← List.dropLast_concat_getLast hlist, hlast]
      rfl
    exact components_append_slash s q
  · rw [components_append_slash, components_append_slash_nil hempty]

/-- What stands before the first slash is missing only at the root, or if there
    is nothing at all. -/
theorem eq_empty_of_takeWhile {q : String} (h : q.toList.takeWhile (· ≠ '/') = [])
    (hrelative : isAbsolute ⟨q⟩ = false) : q = "" := by
  rw [← String.toList_eq_nil_iff]
  cases hq : q.toList with
  | nil => rfl
  | cons c cs =>
    by_cases hc : c = '/'
    · simp [isAbsolute, hq, hc] at hrelative
    · simp [hq, hc] at h

/-! ## File names -/

/-- A name without slashes, other than those for the directory one is in and for
    the one above. -/
structure IsFileName (name : String) : Prop where
  ne_empty : name ≠ ""
  noSlash : '/' ∉ name.toList
  ne_current : name ≠ "."
  ne_parent : name ≠ ".."

/-- A file name is a single component. -/
theorem components_of_isFileName {name : String} (h : IsFileName name) :
    components ⟨name⟩ = [.named name] := by
  have hrelative : ¬ isAbsolute ⟨name⟩ = true := by
    intro habsolute
    exact h.noSlash (List.mem_of_head? (beq_iff_eq.1 habsolute))
  have hcurrent : name.toList ≠ ['.'] := fun h' => h.ne_current (String.toList_inj.1 h')
  have hparent : name.toList ≠ ['.', '.'] := fun h' => h.ne_parent (String.toList_inj.1 h')
  have hentry : componentOf name.toList = some (.named name) :=
    componentOf_eq_some_named_iff.2
      ⟨mt String.toList_eq_nil_iff.1 h.ne_empty, hcurrent, hparent, String.ofList_toList.symm⟩
  rw [components, Text.parts_of_notMem h.noSlash]
  dsimp only
  rw [if_neg hrelative, if_neg hcurrent, hentry]
  rfl

end Path

end PolicyBench
