/-
  PolicyBench — runs of characters.

  A text is scanned by taking all the characters of a class that stand at its
  front.  What is taken is a run of the class, and behind it the class stops.

  * `Stops p rest`: no character of the class is in front of `rest`;
  * `takeWhile_run`, `dropWhile_run`: a run is taken as a whole;
  * `CodeRanges.contains_eq_false_of_disjoint`: tables without a common range
    have no common character;
  * `isBlank_of_isDigit`: no digit is blank.
-/
import PolicyBench.Text.Blank
import PolicyBench.Text.Digit

namespace PolicyBench.Text

/-! ## Runs -/

/-- No character of the class stands in front. -/
def Stops (p : Char → Bool) (rest : List Char) : Prop := ∀ c ∈ rest.head?, p c = false

section
variable {p : Char → Bool} {run rest : List Char}

theorem stops_nil : Stops p [] := nofun

theorem stops_cons {c : Char} : Stops p (c :: rest) ↔ p c = false := by
  simp [Stops]

theorem stops_dropWhile (p : Char → Bool) (cs : List Char) : Stops p (cs.dropWhile p) := by
  intro c hc
  have hnot := List.head?_dropWhile_not p cs
  rw [Option.mem_def.1 hc] at hnot
  simpa using hnot

theorem forall_takeWhile (p : Char → Bool) (cs : List Char) : ∀ c ∈ cs.takeWhile p, p c = true :=
  List.all_eq_true.1 List.all_takeWhile

theorem takeWhile_stops (h : Stops p rest) : rest.takeWhile p = [] := by
  cases rest with
  | nil => rfl
  | cons c rest => rw [List.takeWhile_cons_of_neg (by simpa using stops_cons.1 h)]

theorem dropWhile_stops (h : Stops p rest) : rest.dropWhile p = rest := by
  cases rest with
  | nil => rfl
  | cons c rest => rw [List.dropWhile_cons_of_neg (by simpa using stops_cons.1 h)]

/-- A run is taken up to where the class stops. -/
theorem takeWhile_run (hrun : ∀ c ∈ run, p c = true) (h : Stops p rest) :
    (run ++ rest).takeWhile p = run := by
  rw [List.takeWhile_append_of_pos hrun, takeWhile_stops h, List.append_nil]

theorem dropWhile_run (hrun : ∀ c ∈ run, p c = true) (h : Stops p rest) :
    (run ++ rest).dropWhile p = rest := by
  rw [List.dropWhile_append_of_pos hrun, dropWhile_stops h]

end

/-! ## Classes without common characters -/

/-- Tables whose ranges do not meet have no common character. -/
theorem CodeRanges.contains_eq_false_of_disjoint {t u : CodeRanges}
    (h : ∀ r ∈ t.ranges, ∀ s ∈ u.ranges, r.2 < s.1 ∨ s.2 < r.1) {n : Nat}
    (ht : t.contains n = true) : u.contains n = false := by
  rw [Bool.eq_false_iff]
  intro hu
  obtain ⟨r, hr, hlow, hhigh⟩ := (t.contains_iff n).1 ht
  obtain ⟨s, hs, hlow', hhigh'⟩ := (u.contains_iff n).1 hu
  have := h r hr s hs
  omega

/-- No digit is blank. -/
theorem isBlank_of_isDigit {c : Char} (h : isDigit c = true) : isBlank c = false := by
  unfold isDigit at h
  split at h
  · simp only [Bool.and_eq_true, decide_eq_true_eq, Char.le_def, UInt32.le_iff_toNat_le] at h
    have hrange : CodeRanges.contains ⟨[(0x30, 0x39)]⟩ c.toNat = true :=
      (CodeRanges.contains_iff _ _).2 ⟨_, List.mem_singleton.2 rfl, h⟩
    exact CodeRanges.contains_eq_false_of_disjoint (by decide) hrange
  · exact CodeRanges.contains_eq_false_of_disjoint (by decide) h

end PolicyBench.Text
