/-
  PolicyBench — file systems that differ in places where paths end.

  No path leads through a file, a device or a missing entry.  So if nothing else
  changes, every path leads where it led before, and what is read is the same
  unless it is one of the places that changed.  The limits of files never change.

  * `DeadEnd`: there is neither a directory nor a link;
  * `ChangedOnly p fs fs'`: the two agree but for dead ends at places of `p`;
  * `locate_eq_ok_iff`, `locateNew_eq_ok_iff`: paths lead to the same places;
  * `read_eq_ok_iff`, `readText_eq_ok_iff`: the same is read from all others;
  * `changedOnly_setEntry`, `changedOnly_openForWriting`, `changedOnly_writeAt`:
    what is written to one place changes only that.
-/
import PolicyBench.FileSystem
import PolicyBench.Proofs.Except

namespace PolicyBench.FileSystem

open Text (Bytes)

/-! ## Entries -/

theorem get?_setEntry_self (fs : FileSystem) {at_ : Location} (h : at_ ≠ []) (entry : Entry) :
    (fs.setEntry at_ entry).get? at_ = some entry := by
  simp [get?, setEntry, h]

theorem get?_setEntry_of_ne (fs : FileSystem) {at_ other : Location} (h : other ≠ at_)
    (entry : Entry) : (fs.setEntry at_ entry).get? other = fs.get? other := by
  have hfind : (fs.entries.filter fun e => e.1 != at_).find? (fun e => e.1 == other) =
      fs.entries.find? fun e => e.1 == other := by
    rw [List.find?_filter]
    congr 1
    funext e
    by_cases he : e.1 = other
    · simp [he, h]
    · simp [he]
  simp [get?, setEntry, Ne.symm h, hfind]

/-- No path leads further from such an entry. -/
def DeadEnd (entry : Option Entry) : Prop :=
  entry ≠ some .directory ∧ ∀ target, entry ≠ some (.link target)

theorem DeadEnd.ne_nil {fs : FileSystem} {at_ : Location} (h : DeadEnd (fs.get? at_)) :
    at_ ≠ [] := by
  rintro rfl
  exact h.1 rfl

theorem DeadEnd.follow {fs : FileSystem} {at_ : Location} (h : DeadEnd (fs.get? at_)) :
    fs.follow at_ = at_ := by
  unfold FileSystem.follow
  split
  · next target htarget => exact absurd htarget (h.2 target)
  · rfl

theorem deadEnd_none : DeadEnd none := ⟨nofun, nofun⟩

theorem deadEnd_file (content : Bytes) : DeadEnd (some (.file content)) := ⟨nofun, nofun⟩

theorem deadEnd_output (written : Bytes) : DeadEnd (some (.output written)) := ⟨nofun, nofun⟩

/-- The text of a file is what its content is the encoding of. -/
theorem readText_eq_ok_iff {fs : FileSystem} {path : Path} {text : String} :
    fs.readText path = .ok text ↔
      ∃ content, fs.read path = .ok content ∧ Text.ofUtf8? content = some text := by
  unfold readText
  cases fs.read path with
  | error problem => exact iff_of_false nofun nofun
  | ok content =>
    cases htext : Text.ofUtf8? content <;> simp [htext]

/-! ## File systems that agree -/

/-- The two file systems agree, except that at some places of `p` one dead end
    may stand for another. -/
structure ChangedOnly (p : Location → Prop) (fs fs' : FileSystem) : Prop where
  working : fs'.working = fs.working
  limits : fs'.limits = fs.limits
  entry (at_ : Location) : fs'.get? at_ = fs.get? at_ ∨
    p at_ ∧ DeadEnd (fs.get? at_) ∧ DeadEnd (fs'.get? at_)

namespace ChangedOnly

variable {p q : Location → Prop} {fs fs' fs'' : FileSystem}

theorem refl (p : Location → Prop) (fs : FileSystem) : ChangedOnly p fs fs :=
  ⟨rfl, rfl, fun _ => .inl rfl⟩

theorem symm (h : ChangedOnly p fs fs') : ChangedOnly p fs' fs where
  working := h.working.symm
  limits := h.limits.symm
  entry at_ := (h.entry at_).imp Eq.symm fun ⟨hp, hd, hd'⟩ => ⟨hp, hd', hd⟩

theorem mono (h : ChangedOnly p fs fs') (hpq : ∀ at_, p at_ → q at_) : ChangedOnly q fs fs' where
  working := h.working
  limits := h.limits
  entry at_ := (h.entry at_).imp_right fun ⟨hp, hd⟩ => ⟨hpq at_ hp, hd⟩

theorem trans (h : ChangedOnly p fs fs') (h' : ChangedOnly p fs' fs'') :
    ChangedOnly p fs fs'' where
  working := h'.working.trans h.working
  limits := h'.limits.trans h.limits
  entry at_ := by
    rcases h.entry at_ with he | ⟨hp, hd, hd'⟩
    · rw [← he]
      exact h'.entry at_
    · rcases h'.entry at_ with he | ⟨-, -, hd''⟩
      · exact .inr ⟨hp, hd, he ▸ hd'⟩
      · exact .inr ⟨hp, hd, hd''⟩

theorem get?_eq (h : ChangedOnly p fs fs') {at_ : Location} (hp : ¬ p at_) :
    fs'.get? at_ = fs.get? at_ :=
  (h.entry at_).resolve_right fun hchanged => hp hchanged.1

theorem directory_iff (h : ChangedOnly p fs fs') (at_ : Location) :
    fs'.get? at_ = some .directory ↔ fs.get? at_ = some .directory := by
  rcases h.entry at_ with he | ⟨-, hd, hd'⟩
  · rw [he]
  · exact iff_of_false hd'.1 hd.1

/-- Files have the same room. -/
theorem fitting_eq (h : ChangedOnly p fs fs') (at_ : Location) (position count : Nat) :
    fs'.fitting at_ position count = fs.fitting at_ position count := by
  rw [fitting, fitting, limit?, limit?, h.limits]

theorem follow_eq (h : ChangedOnly p fs fs') (at_ : Location) : fs'.follow at_ = fs.follow at_ := by
  rcases h.entry at_ with he | ⟨-, hd, hd'⟩
  · simp only [follow, he]
  · rw [hd.follow, hd'.follow]

/-! ## Paths -/

/-- A step is taken in a directory, and these are the same. -/
theorem step_of_ok (h : ChangedOnly p fs fs') {at_ next : Location} {part : String}
    (hstep : fs.step at_ part = .ok next) : fs'.step at_ part = .ok next := by
  unfold step at hstep
  split at hstep
  · cases hstep
  · next hdirectory =>
    simpa only [step, (h.directory_iff at_).2 hdirectory, h.follow_eq] using hstep
  · cases hstep

theorem step_eq_ok_iff (h : ChangedOnly p fs fs') {at_ next : Location} {part : String} :
    fs'.step at_ part = .ok next ↔ fs.step at_ part = .ok next :=
  ⟨h.symm.step_of_ok, h.step_of_ok⟩

theorem foldlM_step_eq_ok_iff (h : ChangedOnly p fs fs') {parts : List String}
    {at_ last : Location} :
    parts.foldlM fs'.step at_ = .ok last ↔ parts.foldlM fs.step at_ = .ok last := by
  induction parts generalizing at_ with
  | nil => rfl
  | cons part parts ih => simp only [List.foldlM_cons, bind_eq_ok_iff, h.step_eq_ok_iff, ih]

theorem start_eq (h : ChangedOnly p fs fs') (path : Path) : fs'.start path = fs.start path := by
  rw [start, start, h.working]

/-- A path leads to the same place. -/
theorem locate_eq_ok_iff (h : ChangedOnly p fs fs') {path : Path} {at_ : Location} :
    fs'.locate path = .ok at_ ↔ fs.locate path = .ok at_ := by
  simp only [locate, bind_eq_ok_iff, h.start_eq, h.foldlM_step_eq_ok_iff]

/-- A path creates a file at the same place. -/
theorem locateNew_eq_ok_iff (h : ChangedOnly p fs fs') {path : Path} {at_ : Location} :
    fs'.locateNew path = .ok at_ ↔ fs.locateNew path = .ok at_ := by
  simp only [locateNew, bind_eq_ok_iff]
  refine exists_congr fun all => and_congr_right fun _ => ?_
  cases beforeLast? all with
  | none => rfl
  | some split =>
    simp only [bind_eq_ok_iff, h.start_eq, h.foldlM_step_eq_ok_iff, h.step_eq_ok_iff]
    refine exists_congr fun reached => and_congr_right fun _ => ?_
    refine exists_congr fun directory => and_congr_right fun _ => ?_
    split
    · rfl
    · simp only [bind_eq_ok_iff, h.step_eq_ok_iff, h.directory_iff]

/-! ## Reading -/

section
variable (h : ChangedOnly p fs fs') {path : Path} (hp : ∀ at_, fs.locate path = .ok at_ → ¬ p at_)
include h hp

/-- The same is read from a file that is not among the changed ones. -/
theorem read_eq_ok_iff {content : Bytes} :
    fs'.read path = .ok content ↔ fs.read path = .ok content := by
  unfold read
  cases hat : fs.locate path with
  | error problem =>
    obtain ⟨problem', hat'⟩ : ∃ problem', fs'.locate path = .error problem' := by
      refine exists_eq_error_iff.2 fun at_ hat' => ?_
      rw [h.locate_eq_ok_iff, hat] at hat'
      cases hat'
    rw [hat']
    exact iff_of_false nofun nofun
  | ok at_ =>
    rw [h.locate_eq_ok_iff.2 hat]
    dsimp only
    rw [h.get?_eq (hp at_ hat)]

theorem readText_eq_ok_iff {text : String} :
    fs'.readText path = .ok text ↔ fs.readText path = .ok text := by
  simp only [FileSystem.readText_eq_ok_iff, h.read_eq_ok_iff hp]

end

end ChangedOnly

/-! ## Writing -/

theorem changedOnly_setEntry {fs : FileSystem} {at_ : Location} {entry : Entry}
    (h : DeadEnd (fs.get? at_)) (hentry : DeadEnd (some entry)) :
    ChangedOnly (· = at_) fs (fs.setEntry at_ entry) where
  working := rfl
  limits := rfl
  entry other := by
    by_cases hother : other = at_
    · subst hother
      exact .inr ⟨rfl, h, (get?_setEntry_self fs h.ne_nil entry).symm ▸ hentry⟩
    · exact .inl (get?_setEntry_of_ne fs hother entry)

theorem changedOnly_openForWriting {fs fs' : FileSystem} {path : Path} {truncate : Bool}
    {at_ : Location} (h : fs.openForWriting path truncate = .ok (at_, fs')) :
    fs.locateNew path = .ok at_ ∧ ChangedOnly (· = at_) fs fs' := by
  unfold openForWriting at h
  split at h
  · cases h
  · next place hplace =>
    split at h
    · next hnone =>
      split at h
      · cases h
      · cases h
        exact ⟨hplace, changedOnly_setEntry (hnone ▸ deadEnd_none) (deadEnd_file [])⟩
    · next content hfile =>
      split at h
      · cases h
        exact ⟨hplace, changedOnly_setEntry (hfile ▸ deadEnd_file content) (deadEnd_file [])⟩
      · cases h
        exact ⟨hplace, .refl _ _⟩
    · cases h
    · cases h
      exact ⟨hplace, .refl _ _⟩

theorem changedOnly_writeAt (fs : FileSystem) (at_ : Location) (position : Nat) (new : Bytes) :
    ChangedOnly (· = at_) fs (fs.writeAt at_ position new) := by
  unfold writeAt
  dsimp only
  split
  · exact .refl _ _
  · split
    · next old hold => exact changedOnly_setEntry (hold ▸ deadEnd_file old) (deadEnd_file _)
    · next written hwritten =>
      exact changedOnly_setEntry (hwritten ▸ deadEnd_output written) (deadEnd_output _)
    · exact .refl _ _

end PolicyBench.FileSystem
