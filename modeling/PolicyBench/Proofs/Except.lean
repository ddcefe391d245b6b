/-
  PolicyBench — results that may be a problem.

  Steps in turn give a result exactly if each of them does.

  * `bind_eq_ok_iff`, `bind_eq_error_iff`: two steps in turn;
  * `mapError_eq_ok_iff`, `mapError_eq_error_iff`: telling the problem in other words
    changes no result;
  * `mem_toOption_iff`, `toOption_congr`: the result alone, whatever the problem;
  * `exists_split_cons_iff`, `exists_split_map_iff`: the first of several problems, by
    the list they are in.
-/

namespace PolicyBench

variable {ε ε' α β : Type}

theorem bind_eq_ok_iff {x : Except ε α} {f : α → Except ε β} {b : β} :
    x >>= f = .ok b ↔ ∃ a, x = .ok a ∧ f a = .ok b := by
  cases x with
  | error e => exact ⟨nofun, fun ⟨_, h, _⟩ => nomatch h⟩
  | ok a => exact ⟨fun h => ⟨a, rfl, h⟩, fun ⟨_, h, hb⟩ => by cases h; exact hb⟩

/-- The first step that has a problem decides. -/
theorem bind_eq_error_iff {x : Except ε α} {f : α → Except ε β} {e : ε} :
    x >>= f = .error e ↔ x = .error e ∨ ∃ a, x = .ok a ∧ f a = .error e := by
  cases x with
  | error e' =>
    constructor
    · intro h; cases h; exact .inl rfl
    · rintro (h | ⟨_, h, -⟩) <;> cases h
      rfl
  | ok a =>
    constructor
    · exact fun h => .inr ⟨a, rfl, h⟩
    · rintro (h | ⟨_, h, he⟩) <;> cases h
      exact he

theorem pure_ne_error {a : α} {e : ε} : (pure a : Except ε α) ≠ .error e := nofun

theorem pure_eq_ok_iff {a b : α} : (pure a : Except ε α) = .ok b ↔ a = b := by
  simp [pure, Except.pure]

theorem mapError_eq_ok_iff {f : ε → ε'} {x : Except ε α} {a : α} :
    x.mapError f = .ok a ↔ x = .ok a := by
  cases x with
  | error e => exact ⟨nofun, nofun⟩
  | ok b => constructor <;> (intro h; cases h; rfl)

theorem mapError_eq_error_iff {f : ε → ε'} {x : Except ε α} {e : ε'} :
    x.mapError f = .error e ↔ ∃ e', x = .error e' ∧ e = f e' := by
  cases x with
  | error e' =>
    constructor
    · intro h; cases h; exact ⟨e', rfl, rfl⟩
    · rintro ⟨_, h, rfl⟩; cases h; rfl
  | ok b =>
    constructor
    · intro h; cases h
    · rintro ⟨_, h, -⟩; cases h

theorem mem_toOption_iff {x : Except ε α} {a : α} : a ∈ x.toOption ↔ x = .ok a := by
  cases x with
  | error e => exact ⟨nofun, nofun⟩
  | ok b => constructor <;> (intro h; cases h; rfl)

theorem toOption_congr {x : Except ε α} {y : Except ε' α}
    (h : ∀ a, x = .ok a ↔ y = .ok a) : x.toOption = y.toOption := by
  refine Option.ext fun a => ?_
  rw [← Option.mem_def, mem_toOption_iff, h, ← mem_toOption_iff, Option.mem_def]

theorem toOption_mapError (f : ε → ε') (x : Except ε α) :
    (x.mapError f).toOption = x.toOption :=
  toOption_congr fun _ => mapError_eq_ok_iff

/-- A result is missing exactly if there is a problem. -/
theorem exists_eq_error_iff {x : Except ε α} : (∃ e, x = .error e) ↔ ∀ a, x ≠ .ok a := by
  cases x with
  | error e => simp
  | ok a => simp

/-! ## The first of several -/

section
variable {R : List α → α → List α → Prop}

theorem not_exists_split_nil :
    ¬ ∃ before x after, [] = before ++ x :: after ∧ R before x after := by
  rintro ⟨before, x, after, h, -⟩
  exact List.append_ne_nil_of_right_ne_nil before (List.cons_ne_nil x after) h.symm

/-- A list is split at its first entry or at a later one. -/
theorem exists_split_cons_iff {a : α} {l : List α} :
    (∃ before x after, a :: l = before ++ x :: after ∧ R before x after) ↔
      R [] a l ∨ ∃ before x after, l = before ++ x :: after ∧ R (a :: before) x after := by
  constructor
  · rintro ⟨before, x, after, h, hR⟩
    cases before with
    | nil => cases h; exact .inl hR
    | cons b before => cases h; exact .inr ⟨before, x, after, rfl, hR⟩
  · rintro (hR | ⟨before, x, after, rfl, hR⟩)
    · exact ⟨[], a, l, rfl, hR⟩
    · exact ⟨a :: before, x, after, rfl, hR⟩

end

/-- A list of images is split where the list is. -/
theorem exists_split_map_iff {f : α → β} {l : List α} {R : List β → β → Prop} :
    (∃ before y after, l.map f = before ++ y :: after ∧ R before y) ↔
      ∃ before x after, l = before ++ x :: after ∧ R (before.map f) (f x) := by
  constructor
  · rintro ⟨_, _, _, h, hR⟩
    obtain ⟨before, rest, rfl, rfl, hrest⟩ := List.map_eq_append_iff.1 h
    obtain ⟨x, after, rfl, rfl, -⟩ := List.map_eq_cons_iff.1 hrest
    exact ⟨before, x, after, rfl, hR⟩
  · rintro ⟨before, x, after, rfl, hR⟩
    exact ⟨before.map f, f x, after.map f, by rw [List.map_append, List.map_cons], hR⟩

end PolicyBench
