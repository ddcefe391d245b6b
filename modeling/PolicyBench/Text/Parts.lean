/-
  PolicyBench — parts of a text between separators.

  A separator splits a text at every place where it stands, so that there is
  always at least one part, and parts may be empty.

  * `parts` are the parts;
  * `intercalate_parts`: joined with the separator they are the text again;
  * `not_mem_of_mem_parts`: no part holds the separator.
-/

namespace PolicyBench.Text

/-- The parts of a text between the places where `sep` stands. -/
def parts (sep : Char) : List Char → List (List Char)
  | [] => [[]]
  | c :: cs =>
    if c = sep then [] :: parts sep cs
    else
      match parts sep cs with
      | [] => [[c]]
      | p :: ps => (c :: p) :: ps

theorem parts_ne_nil (sep : Char) (cs : List Char) : parts sep cs ≠ [] := by
  cases cs with
  | nil => simp [parts]
  | cons c cs => unfold parts; split <;> (try split) <;> simp

theorem parts_cons_of_ne {sep c : Char} (h : c ≠ sep) (cs : List Char) :
    ∃ p ps, parts sep cs = p :: ps ∧ parts sep (c :: cs) = (c :: p) :: ps := by
  obtain ⟨p, ps, hp⟩ := List.exists_cons_of_ne_nil (parts_ne_nil sep cs)
  exact ⟨p, ps, hp, by simp [parts, h, hp]⟩

/-- Joined with the separator, the parts are the text. -/
theorem intercalate_parts (sep : Char) (cs : List Char) :
    [sep].intercalate (parts sep cs) = cs := by
  induction cs with
  | nil => simp [parts]
  | cons c cs ih =>
    by_cases h : c = sep
    · obtain ⟨p, ps, hp⟩ := List.exists_cons_of_ne_nil (parts_ne_nil sep cs)
      rw [parts, if_pos h, hp, List.intercalate_cons_cons, ← hp, ih, h]
      rfl
    · obtain ⟨p, ps, hp, hc⟩ := parts_cons_of_ne h cs
      rw [hp] at ih
      rw [hc, ← ih]
      cases ps <;> simp

/-- No part holds the separator. -/
theorem not_mem_of_mem_parts {sep : Char} {cs p : List Char} (hp : p ∈ parts sep cs) : sep ∉ p := by
  induction cs generalizing p with
  | nil => simp [parts] at hp; simp [hp]
  | cons c cs ih =>
    by_cases h : c = sep
    · simp only [parts, h, if_true, List.mem_cons] at hp
      rcases hp with rfl | hp
      · simp
      · exact ih hp
    · obtain ⟨q, qs, hq, hc⟩ := parts_cons_of_ne h cs
      rw [hc, List.mem_cons] at hp
      rcases hp with rfl | hp
      · simpa [Ne.symm h] using ih (hq ▸ List.mem_cons_self)
      · exact ih (hq ▸ List.mem_cons_of_mem _ hp)

end PolicyBench.Text
