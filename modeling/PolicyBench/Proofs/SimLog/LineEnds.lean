/-
  PolicyBench — logs with other line ends.

  A line may end with a line feed, or with a carriage return and a line feed, and
  the lines of one log need not agree in this.  Nothing that is read from a log
  depends on it.  A carriage return is blank behind a colon, it is not looked at
  in the end of a block, and it is no part of a line.

  * `Respelled s t`: some line feeds of `s` have a carriage return in `t`, and
    `respelled_iff`: that is, without these the texts are the same;
  * `leftmost?_rel`: a search that does the same at corresponding places finds the
    same;
  * `labelled?_respelled`, `bodyAfter?_respelled`, `lines_respelled`: numbers and
    lines are the same, and the bodies of blocks correspond;
  * `read_eq_of_respelled`: the same is read, and the same is reported on the way.
-/
import PolicyBench.Proofs.SimLog.Metrics

namespace PolicyBench.SimLog

open PolicyBench.Text

/-- `s` has no carriage return, and `t` is `s` with one in front of some of its
    line feeds. -/
inductive Respelled : List Char → List Char → Prop
  | nil : Respelled [] []
  | keep {c : Char} {s t : List Char} (hc : c ≠ '\r') (h : Respelled s t) :
      Respelled (c :: s) (c :: t)
  | mark {s t : List Char} (h : Respelled s t) : Respelled ('\n' :: s) ('\r' :: '\n' :: t)

theorem Respelled.lineFeed {s t : List Char} (h : Respelled s t) :
    Respelled ('\n' :: s) ('\n' :: t) :=
  .keep (by decide) h

/-- The text with a line feed for each carriage return and line feed. -/
def withoutReturns : List Char → List Char
  | [] => []
  | '\r' :: '\n' :: t => '\n' :: withoutReturns t
  | c :: t => c :: withoutReturns t

theorem withoutReturns_cons {c : Char} (hc : c ≠ '\r') (t : List Char) :
    withoutReturns (c :: t) = c :: withoutReturns t := by
  rw [withoutReturns]
  exact fun _ heq => absurd heq hc

/-- The spellings of a text are those with the same line feeds. -/
theorem respelled_iff {s t : List Char} : Respelled s t ↔ '\r' ∉ s ∧ withoutReturns t = s := by
  constructor
  · intro h
    induction h with
    | nil => exact ⟨List.not_mem_nil, rfl⟩
    | keep hc h ih =>
      rw [withoutReturns_cons hc, ih.2, List.mem_cons, not_or]
      exact ⟨⟨Ne.symm hc, ih.1⟩, rfl⟩
    | mark h ih =>
      rw [withoutReturns, ih.2, List.mem_cons, not_or]
      exact ⟨⟨by decide, ih.1⟩, rfl⟩
  · rintro ⟨hcr, rfl⟩
    fun_induction withoutReturns t with
    | case1 => exact .nil
    | case2 t ih => exact .mark (ih fun hmem => hcr (List.mem_cons_of_mem _ hmem))
    | case3 c t _ ih =>
      rw [List.mem_cons, not_or] at hcr
      exact .keep (Ne.symm hcr.1) (ih hcr.2)

instance (s t : List Char) : Decidable (Respelled s t) :=
  decidable_of_iff _ respelled_iff.symm

/-! ## Searching -/

section
variable {α : Type} {r : α → α → Prop}

/-- Related results are both there, or both missing. -/
theorem cases_of_rel {x y : Option α} (h : Option.Rel r x y) :
    (x = none ∧ y = none) ∨ ∃ a b, x = some a ∧ y = some b ∧ r a b := by
  cases h with
  | none => exact .inl ⟨rfl, rfl⟩
  | some h => exact .inr ⟨_, _, rfl, rfl, h⟩

theorem rel_eq_iff {x y : Option α} : Option.Rel (· = ·) x y ↔ y = x := by
  constructor
  · intro h
    cases h with
    | none => rfl
    | some h => rw [h]
  · rintro rfl
    cases y with
    | none => exact .none
    | some a => exact .some rfl

/-- A search that does the same at corresponding places finds the same. -/
theorem leftmost?_rel {f : List Char → Option α}
    (hf : ∀ {s t}, Respelled s t → Option.Rel r (f s) (f t)) {s t : List Char}
    (h : Respelled s t) : Option.Rel r (leftmost? f s) (leftmost? f t) := by
  induction h with
  | nil => exact hf .nil
  | keep hc h ih =>
    rw [leftmost?, leftmost?]
    rcases cases_of_rel (hf (.keep hc h)) with ⟨hs, ht⟩ | ⟨a, b, hs, ht, hab⟩
    · rw [hs, ht]
      exact ih
    · rw [hs, ht]
      exact .some hab
  | mark h ih =>
    rw [leftmost?, leftmost?, leftmost?]
    rcases cases_of_rel (hf (.mark h)) with ⟨hs, ht⟩ | ⟨a, b, hs, ht, hab⟩
    · -- behind the carriage return the line feed is tried again, with the same result
      rcases cases_of_rel (hf h.lineFeed) with ⟨-, hlf⟩ | ⟨a, b, hs', -⟩
      · rw [hs, ht, hlf]
        exact ih
      · rw [hs] at hs'
        cases hs'
    · rw [hs, ht]
      exact .some hab

end

variable {s t : List Char}

/-- A label without line ends is followed by corresponding texts. -/
theorem after?_respelled {label : List Char} (hlf : '\n' ∉ label) (hcr : '\r' ∉ label)
    (h : Respelled s t) : Option.Rel Respelled (after? label s) (after? label t) := by
  induction label generalizing s t with
  | nil => exact .some h
  | cons l label ih =>
    rw [List.mem_cons, not_or] at hlf hcr
    cases h with
    | nil => exact .none
    | keep hc h =>
      rw [after?, after?]
      split
      · exact ih hlf.2 hcr.2 h
      · exact .none
    | mark h =>
      rw [after?, after?, if_neg (Ne.symm hlf.1), if_neg (Ne.symm hcr.1)]
      exact .none

/-! ## Labelled numbers -/

theorem dropWhile_isBlank_respelled (h : Respelled s t) :
    Respelled (s.dropWhile isBlank) (t.dropWhile isBlank) := by
  have hlf : isBlank '\n' = true := by decide
  have hcr : isBlank '\r' = true := by decide
  induction h with
  | nil => exact .nil
  | @keep c s t hc h ih =>
    by_cases hblank : isBlank c = true
    · rwa [List.dropWhile_cons_of_pos hblank, List.dropWhile_cons_of_pos hblank]
    · rw [List.dropWhile_cons_of_neg hblank, List.dropWhile_cons_of_neg hblank]
      exact .keep hc h
  | mark h ih =>
    rwa [List.dropWhile_cons_of_pos hlf, List.dropWhile_cons_of_pos hcr,
      List.dropWhile_cons_of_pos hlf]

/-- No digit is part of a line end. -/
theorem takeWhile_isDigit_respelled (h : Respelled s t) :
    t.takeWhile isDigit = s.takeWhile isDigit := by
  induction h with
  | nil => rfl
  | keep hc h ih => rw [List.takeWhile_cons, List.takeWhile_cons, ih]
  | mark h ih => rfl

theorem digitsAfterColon?_respelled (h : Respelled s t) :
    digitsAfterColon? t = digitsAfterColon? s := by
  cases h with
  | nil => rfl
  | @keep c s t hc h =>
    by_cases hcolon : c = ':'
    · subst hcolon
      rw [digitsAfterColon?, digitsAfterColon?,
        takeWhile_isDigit_respelled (dropWhile_isBlank_respelled h)]
    · have hnone (cs : List Char) : digitsAfterColon? (c :: cs) = none := by
        unfold digitsAfterColon?
        split
        · next heq => exact absurd (List.cons.inj heq).1 hcolon
        · rfl
      rw [hnone, hnone]
  | mark h => rfl

theorem labelledHere?_respelled {labels : List (List Char)}
    (hlf : ∀ label ∈ labels, '\n' ∉ label) (hcr : ∀ label ∈ labels, '\r' ∉ label)
    (h : Respelled s t) : labelledHere? labels t = labelledHere? labels s := by
  unfold labelledHere?
  induction labels with
  | nil => rfl
  | cons label labels ih =>
    rw [List.forall_mem_cons] at hlf hcr
    rw [List.findSome?_cons, List.findSome?_cons, ih hlf.2 hcr.2]
    rcases cases_of_rel (after?_respelled hlf.1 hcr.1 h) with ⟨hs, ht⟩ | ⟨a, b, hs, ht, hab⟩
    · rw [hs, ht]
    · rw [hs, ht, Option.bind_some, Option.bind_some, digitsAfterColon?_respelled hab]

/-- The labelled number that is found is the same. -/
theorem labelled?_respelled {labels : List (List Char)} (hlf : ∀ label ∈ labels, '\n' ∉ label)
    (hcr : ∀ label ∈ labels, '\r' ∉ label) (h : Respelled s t) :
    labelled? labels t = labelled? labels s :=
  rel_eq_iff.1 (leftmost?_rel (fun h => rel_eq_iff.2 (labelledHere?_respelled hlf hcr h)) h)

/-! ## Blocks -/

/-- The lines are the same. -/
theorem lines_respelled (h : Respelled s t) : Text.lines t = Text.lines s := by
  induction h with
  | nil => rfl
  | @keep c s t hc h ih =>
    by_cases hlf : c = '\n'
    · subst hlf
      rw [Text.lines, Text.lines, ih]
    · -- neither character of a line end
      simp only [Text.lines, ih, hc, false_implies, implies_true]
  | mark h ih => rw [Text.lines, Text.lines, ih]

/-- Line ends correspond. -/
theorem afterNewline?_respelled (h : Respelled s t) :
    Option.Rel Respelled (afterNewline? s) (afterNewline? t) := by
  cases h with
  | nil => exact .none
  | @keep c s t hc h =>
    by_cases hlf : c = '\n'
    · subst hlf
      exact .some h
    · have hnone (cs : List Char) : afterNewline? (c :: cs) = none := by
        unfold afterNewline?
        split
        · next heq => exact absurd (List.cons.inj heq).1 hlf
        · next heq => exact absurd (List.cons.inj heq).1 hc
        · rfl
      rw [hnone, hnone]
      exact .none
  | mark h => exact .some h

/-- So do empty lines. -/
theorem atEmptyLine_respelled (h : Respelled s t) : atEmptyLine t = atEmptyLine s := by
  unfold atEmptyLine
  rcases cases_of_rel (afterNewline?_respelled h) with ⟨hs, ht⟩ | ⟨a, b, hs, ht, hab⟩
  · rw [hs, ht]
  · rw [hs, ht, Option.bind_some, Option.bind_some]
    rcases cases_of_rel (afterNewline?_respelled hab) with ⟨ha, hb⟩ | ⟨_, _, ha, hb, -⟩
    · rw [ha, hb]
    · rw [ha, hb, Option.isSome_some, Option.isSome_some]

theorem untilEmptyLine_respelled (h : Respelled s t) :
    Respelled (untilEmptyLine s) (untilEmptyLine t) := by
  induction h with
  | nil => exact .nil
  | @keep c s t hc h ih =>
    rw [untilEmptyLine, untilEmptyLine, atEmptyLine_respelled (.keep hc h)]
    split
    · exact .nil
    · exact .keep hc ih
  | @mark s t h ih =>
    have hhere := atEmptyLine_respelled (.mark h)
    have hbehind := atEmptyLine_respelled h.lineFeed
    rw [untilEmptyLine, untilEmptyLine, untilEmptyLine, hhere, hbehind]
    split
    · exact .nil
    · exact .mark ih

theorem bodyAfter?_respelled {header : List Char} (hlf : '\n' ∉ header) (hcr : '\r' ∉ header)
    (h : Respelled s t) : Option.Rel Respelled (bodyAfter? header s) (bodyAfter? header t) := by
  unfold bodyAfter?
  rcases cases_of_rel (leftmost?_rel (fun h => after?_respelled hlf hcr h) h) with
    ⟨hs, ht⟩ | ⟨a, b, hs, ht, hab⟩
  · rw [hs, ht]
    exact .none
  · rw [hs, ht]
    exact .some (untilEmptyLine_respelled hab)

/-! ## Logs -/

theorem Scalar.read_respelled {scalar : Scalar} (hscalar : scalar ∈ scalars)
    (h : Respelled s t) : scalar.read t = scalar.read s := by
  have hends : ∀ scalar ∈ scalars, (∀ label ∈ scalar.labels.map String.toList, '\n' ∉ label) ∧
      ∀ label ∈ scalar.labels.map String.toList, '\r' ∉ label := by decide
  obtain ⟨hlf, hcr⟩ := hends scalar hscalar
  unfold read
  rw [labelled?_respelled hlf hcr h]

theorem Block.read_respelled {block : Block} (hblock : block ∈ blocks) (h : Respelled s t)
    (metrics : Metrics) : block.read t metrics = block.read s metrics := by
  have hends : ∀ block ∈ blocks, '\n' ∉ block.header.toList ∧ '\r' ∉ block.header.toList := by
    decide
  obtain ⟨hlf, hcr⟩ := hends block hblock
  unfold read
  rcases cases_of_rel (bodyAfter?_respelled hlf hcr h) with ⟨hs, ht⟩ | ⟨a, b, hs, ht, hab⟩
  · rw [hs, ht]
  · rw [hs, ht]
    simp only [lines_respelled hab]

theorem readScalars_respelled {list : List Scalar} (hlist : list ⊆ scalars) (h : Respelled s t)
    (metrics : Metrics) : readScalars t metrics list = readScalars s metrics list := by
  induction list generalizing metrics with
  | nil => rfl
  | cons scalar rest ih =>
    obtain ⟨hscalar, hrest⟩ := List.cons_subset.1 hlist
    simp only [readScalars, scalar.read_respelled hscalar h, ih hrest]

theorem readBlocks_respelled {list : List Block} (hlist : list ⊆ blocks) (h : Respelled s t)
    (metrics : Metrics) : readBlocks t metrics list = readBlocks s metrics list := by
  induction list generalizing metrics with
  | nil => rfl
  | cons block rest ih =>
    obtain ⟨hblock, hrest⟩ := List.cons_subset.1 hlist
    simp only [readBlocks, Block.read_respelled hblock h, ih hrest]

/-- **How the lines end makes no difference**, neither to what is read nor to what
    is reported on the way. -/
theorem read_eq_of_respelled {text text' : String} (h : Respelled text.toList text'.toList) :
    read text' = read text := by
  unfold read
  simp only [readScalars_respelled (List.Subset.refl _) h,
    readBlocks_respelled (List.Subset.refl _) h]

/-- A number on the line behind its label, a block that an empty line with mixed
    ends closes, and an entry that is then no longer in it. -/
theorem read_mixed_ends :
    let text := "total_cycles:\n 8\nKV Cache Policy Statistics:\nhits: 1\n\nmisses: 2\n"
    let mixed := "total_cycles:\r\n 8\nKV Cache Policy Statistics:\r\nhits: 1\r\n\nmisses: 2\r\n"
    Respelled text.toList mixed.toList ∧ read mixed = read text ∧
      (read mixed).value.entries = [("kv_hits", 1), ("total_cycles", 8)] := by
  intro text mixed
  have h : Respelled text.toList mixed.toList := by decide +kernel
  exact ⟨h, read_eq_of_respelled h, by decide +kernel⟩

end PolicyBench.SimLog
