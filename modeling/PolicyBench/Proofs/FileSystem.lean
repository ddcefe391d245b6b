/-
  PolicyBench — what is written to a file is read from it.

  Writing a file changes no other place, so that every path leads where it led
  before, and the path of the file leads to what it took of the content.

  * `Fileable fs at_`: at the place there is a file, or one can be put there;
  * `Creates fs p at_`: the path names such a place, where a file can be opened;
  * `write_of_creates`, `write_of_not_creates`: all that writing such a path does,
    and that any other path changes nothing; `write_eq_ok_iff`: when it succeeds;
  * `locate_of_locateNew`: a new file is found where it was made;
  * `TakesFile fs p`: the path names a file that no limit is set to;
  * `exists_write`, `read_write`: such a path can be written, and then read;
  * `ChangedOnly.creates_iff`: what can be opened does not depend on other files.
-/
import PolicyBench.Proofs.FileSystem.Frame

namespace PolicyBench.FileSystem

open Text (Bytes)

/-! ## Places -/

/-- There is a file at the place, or nothing. -/
def Fileable (fs : FileSystem) (at_ : Location) : Prop :=
  fs.get? at_ = none ∨ ∃ content, fs.get? at_ = some (.file content)

section
variable {fs : FileSystem} {at_ : Location} (h : fs.Fileable at_)
include h

theorem Fileable.deadEnd : DeadEnd (fs.get? at_) := by
  rcases h with h | ⟨content, h⟩
  · exact h ▸ deadEnd_none
  · exact h ▸ deadEnd_file content

theorem Fileable.ne_nil : at_ ≠ [] := h.deadEnd.ne_nil

/-- Storing a file there changes nothing else. -/
theorem Fileable.changedOnly (content : Bytes) :
    ChangedOnly (· = at_) fs (fs.setEntry at_ (.file content)) :=
  changedOnly_setEntry h.deadEnd (deadEnd_file content)

end

/-- What is no device shows nothing. -/
theorem Fileable.shown_eq {fs : FileSystem} (h : fs.Fileable (streamLocation 1)) :
    fs.shown = [] := by
  rcases h with h | ⟨content, h⟩ <;> rw [shown, h]

theorem shown_congr {fs fs' : FileSystem}
    (h : fs'.get? (streamLocation 1) = fs.get? (streamLocation 1)) : fs'.shown = fs.shown := by
  rw [shown, shown, h]

/-! ## New files -/

theorem eq_append_of_beforeLast? {all before : List String} {last : String}
    (h : beforeLast? all = some (before, last)) (hlast : all.getLast? ≠ some "") :
    all = before ++ [last] := by
  unfold beforeLast? at h
  have hdrop : all.reverse.dropWhile (· = "") = all.reverse := by
    rw [← List.head?_reverse] at hlast
    cases hall : all.reverse with
    | nil => rfl
    | cons part rest =>
      rw [hall, List.head?_cons] at hlast
      exact List.dropWhile_cons_of_neg (by simpa using hlast)
  rw [hdrop] at h
  cases hall : all.reverse with
  | nil => rw [hall] at h; cases h
  | cons part rest =>
    rw [hall] at h
    cases h
    rw [← List.reverse_reverse all, hall, List.reverse_cons]

/-- A file is found again where it was made. -/
theorem locate_of_locateNew {fs : FileSystem} {p : Path} {at_ : Location}
    (h : fs.locateNew p = .ok at_) : fs.locate p = .ok at_ := by
  unfold locateNew at h
  unfold locate
  rw [bind_eq_ok_iff] at h ⊢
  obtain ⟨all, hall, h⟩ := h
  refine ⟨all, hall, ?_⟩
  split at h
  · cases h
  · next before last hbefore =>
    rw [bind_eq_ok_iff] at h
    obtain ⟨reached, hreached, h⟩ := h
    rw [bind_eq_ok_iff] at h
    obtain ⟨directory, hdirectory, h⟩ := h
    -- asking for the directory itself leads nowhere else
    have hsame : directory = reached := by
      unfold step at hdirectory
      split at hdirectory
      · cases hdirectory
      · rw [if_pos (.inr rfl)] at hdirectory
        cases hdirectory; rfl
      · cases hdirectory
    subst hsame
    split at h
    · cases h
    · next hlast =>
      rw [bind_eq_ok_iff] at h
      obtain ⟨found, hfound, h⟩ := h
      split at h
      · cases h
      · cases h
        rw [eq_append_of_beforeLast? hbefore hlast, List.foldlM_append, bind_eq_ok_iff]
        exact ⟨directory, hreached, bind_eq_ok_iff.2 ⟨at_, hfound, rfl⟩⟩

/-! ## Writing -/

/-- The path names a place where a file can be opened, or made. -/
def Creates (fs : FileSystem) (p : Path) (at_ : Location) : Prop :=
  fs.locateNew p = .ok at_ ∧ fs.Fileable at_ ∧
    (fs.get? at_ = none → at_.head? ≠ some "proc")

theorem fitting_le (fs : FileSystem) (at_ : Location) (position count : Nat) :
    fs.fitting at_ position count ≤ count := by
  unfold fitting
  split
  · exact Nat.le_refl _
  · exact Nat.min_le_left _ _

theorem openForWriting_of_creates {fs : FileSystem} {p : Path} {at_ : Location}
    (h : fs.Creates p at_) :
    fs.openForWriting p true = .ok (at_, fs.setEntry at_ (.file [])) := by
  obtain ⟨hnew, hfile, hproc⟩ := h
  unfold openForWriting
  rw [hnew]
  rcases hfile with hnone | ⟨content, hcontent⟩
  · simp [hnone, hproc hnone]
  · simp [hcontent]

/-- An empty file holds then what it took. -/
theorem get?_writeAt_of_empty {fs : FileSystem} {at_ : Location}
    (h : fs.get? at_ = some (.file [])) (content : Bytes) :
    (fs.writeAt at_ 0 content).get? at_ =
      some (.file (content.take (fs.fitting at_ 0 content.length))) := by
  have hdead : DeadEnd (fs.get? at_) := h ▸ deadEnd_file []
  unfold writeAt
  rw [accepted, h]
  dsimp only
  split
  · next hnone => rw [hnone, h]
  · rw [get?_setEntry_self fs hdead.ne_nil]
    simp [overwrite]

section
variable {fs : FileSystem} {p : Path}

/-- Where a file can be opened it holds then what fits of the content, and nothing
    else has changed. -/
theorem write_of_creates {at_ : Location} (h : fs.Creates p at_) (content : Bytes) :
    ∃ fs', fs.write p content =
        (if fs.fitting at_ 0 content.length = content.length then .ok ()
          else .error (.writing (fs.fitting at_ 0 content.length) .noSpace), fs') ∧
      fs'.get? at_ = some (.file (content.take (fs.fitting at_ 0 content.length))) ∧
      ChangedOnly (· = at_) fs fs' := by
  have hne := h.2.1.ne_nil
  have hopened := h.2.1.changedOnly []
  have hempty := get?_setEntry_self fs hne (.file [])
  refine ⟨_, ?_, ?_, hopened.trans (changedOnly_writeAt _ at_ 0 content)⟩
  · rw [write, openForWriting_of_creates h]
    dsimp only
    rw [accepted, hempty]
    rfl
  · rw [get?_writeAt_of_empty hempty, hopened.fitting_eq]

variable (hplain : ∀ at_, fs.locateNew p = .ok at_ → fs.Fileable at_)
include hplain

/-- If the path names no device and no file can be opened, nothing changes. -/
theorem write_of_not_creates (h : ∀ at_, ¬ fs.Creates p at_) (content : Bytes) :
    ∃ problem, fs.write p content = (.error (.opening problem), fs) := by
  have hopen : ∃ problem, fs.openForWriting p true = .error problem := by
    unfold openForWriting
    cases hnew : fs.locateNew p with
    | error problem => exact ⟨problem, rfl⟩
    | ok at_ =>
      dsimp only
      rcases hplain at_ hnew with hnone | ⟨old, hold⟩
      · have hproc : at_.head? = some "proc" := Decidable.byContradiction fun hproc =>
          h at_ ⟨hnew, hplain at_ hnew, fun _ => hproc⟩
        rw [hnone]
        exact ⟨_, if_pos hproc⟩
      · refine absurd ⟨hnew, hplain at_ hnew, fun hnone => ?_⟩ (h at_)
        rw [hold] at hnone
        cases hnone
  obtain ⟨problem, hopen⟩ := hopen
  exact ⟨problem, by rw [write, hopen]⟩

theorem write_eq_ok_iff (content : Bytes) :
    (fs.write p content).1 = .ok () ↔
      ∃ at_, fs.Creates p at_ ∧ fs.fitting at_ 0 content.length = content.length := by
  constructor
  · intro hwrite
    by_cases h : ∃ at_, fs.Creates p at_
    · obtain ⟨at_, hcreates⟩ := h
      obtain ⟨fs', hresult, -⟩ := write_of_creates hcreates content
      rw [hresult] at hwrite
      refine ⟨at_, hcreates, Decidable.byContradiction fun hcut => ?_⟩
      rw [if_neg hcut] at hwrite
      cases hwrite
    · obtain ⟨problem, hrefused⟩ := write_of_not_creates hplain (not_exists.1 h) content
      rw [hrefused] at hwrite
      cases hwrite
  · rintro ⟨at_, hcreates, hfits⟩
    obtain ⟨fs', hresult, -⟩ := write_of_creates hcreates content
    rw [hresult, if_pos hfits]

end

theorem ChangedOnly.fileable_iff {changed : Location → Prop} {fs fs' : FileSystem}
    (h : ChangedOnly changed fs fs') {at_ : Location} (hat : ¬ changed at_) :
    fs'.Fileable at_ ↔ fs.Fileable at_ := by
  rw [Fileable, Fileable, h.get?_eq hat]

/-- Whether a file can be opened does not depend on other files. -/
theorem ChangedOnly.creates_iff {changed : Location → Prop} {fs fs' : FileSystem} {p : Path}
    (h : ChangedOnly changed fs fs') (hp : ∀ at_, fs.locateNew p = .ok at_ → ¬ changed at_)
    {at_ : Location} : fs'.Creates p at_ ↔ fs.Creates p at_ := by
  rw [Creates, Creates, h.locateNew_eq_ok_iff]
  refine and_congr_right fun hnew => ?_
  rw [h.fileable_iff (hp at_ hnew), h.get?_eq (hp at_ hnew)]

/-! ## Writing and reading -/

/-- The path names a file that no limit is set to, or a place where one can be made. -/
def TakesFile (fs : FileSystem) (p : Path) : Prop :=
  ∃ at_, fs.Creates p at_ ∧ fs.limit? at_ = none

/-- Such a path can be written: then the content is in the file, and nothing else
    has changed. -/
theorem exists_write {fs : FileSystem} {p : Path} (h : fs.TakesFile p) (content : Bytes) :
    ∃ at_ fs', fs.locateNew p = .ok at_ ∧ fs.write p content = (.ok (), fs') ∧
      fs'.get? at_ = some (.file content) ∧ ChangedOnly (· = at_) fs fs' := by
  obtain ⟨at_, hcreates, hlimit⟩ := h
  have hfits : fs.fitting at_ 0 content.length = content.length := by rw [fitting, hlimit]
  obtain ⟨fs', hwrite, hentry, hchanged⟩ := write_of_creates hcreates content
  rw [hfits, if_pos rfl] at hwrite
  rw [hfits, List.take_length] at hentry
  exact ⟨at_, fs', hcreates.1, hwrite, hentry, hchanged⟩

theorem read_of_get? {fs : FileSystem} {p : Path} {at_ : Location} {content : Bytes}
    (hat : fs.locate p = .ok at_) (hentry : fs.get? at_ = some (.file content)) :
    fs.read p = .ok content := by
  rw [read, hat]
  dsimp only
  rw [hentry]

/-- **What was written to such a path is read from it.** -/
theorem read_write {fs : FileSystem} {p : Path} (h : fs.TakesFile p) (content : Bytes) :
    (fs.write p content).1 = .ok () ∧ (fs.write p content).2.read p = .ok content := by
  obtain ⟨at_, fs', hnew, hwrite, hentry, hchanged⟩ := exists_write h content
  rw [hwrite]
  exact ⟨rfl, read_of_get? (hchanged.locate_eq_ok_iff.2 (locate_of_locateNew hnew)) hentry⟩

/-- A file can be made in a working directory that is empty. -/
theorem takesFile_fresh_out : fresh.TakesFile ⟨"out.csv"⟩ :=
  ⟨["work", "here", "out.csv"], ⟨rfl, .inl rfl, by decide⟩, rfl⟩

end PolicyBench.FileSystem
