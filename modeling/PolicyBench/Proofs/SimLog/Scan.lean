/-
  PolicyBench — what is found in a log.

  Every search of a log is described without its algorithm: what can be found
  behind a part of the text, and that nothing is found behind a shorter part.

  * `FirstFound found a`: `a` is found first;
  * `ColonNumber`, `LabelledNumber`, `LineEntry`, `BeforeEmptyLine`: what is
    looked for;
  * `labelled?_eq_some_iff`, `lineEntry?_eq_some_iff`, `bodyAfter?_eq_some_iff`:
    the searches find the first of it.
-/
import PolicyBench.Proofs.Text.Runs
import PolicyBench.SimLog.Scan

namespace PolicyBench.SimLog

open PolicyBench.Text

/-! ## What is found first -/

section
variable {α : Type} {found found' : List Char → α → Prop} {a b : α}

/-- `a` is found behind a text, and nothing is found behind a shorter one. -/
def FirstFound (found : List Char → α → Prop) (a : α) : Prop :=
  ∃ before, found before a ∧ ∀ other b, found other b → before.length ≤ other.length

theorem firstFound_congr (h : ∀ before a, found before a ↔ found' before a) :
    FirstFound found a ↔ FirstFound found' a := by
  simp only [FirstFound, h]

/-- Where something can be found, something is found first. -/
theorem exists_firstFound_iff : (∃ a, FirstFound found a) ↔ ∃ before a, found before a := by
  constructor
  · rintro ⟨a, before, ha, -⟩
    exact ⟨before, a, ha⟩
  · rintro ⟨before, a, ha⟩
    induction hn : before.length using Nat.strongRecOn generalizing before a with
    | ind n ih =>
      by_cases h : ∃ other b, found other b ∧ other.length < n
      · obtain ⟨other, b, hb, hlt⟩ := h
        exact ih _ hlt other b hb rfl
      · refine ⟨a, before, ha, fun other b hb => Nat.le_of_not_lt fun hlt => h ?_⟩
        exact ⟨other, b, hb, hn ▸ hlt⟩

/-- What is found at once is found first. -/
theorem firstFound_nil (h : found [] a) (hunique : ∀ b, found [] b → b = a) :
    FirstFound found b ↔ b = a := by
  constructor
  · rintro ⟨before, hb, hmin⟩
    obtain rfl := List.length_eq_zero_iff.1 (Nat.le_zero.1 (hmin [] a h))
    exact hunique b hb
  · rintro rfl
    exact ⟨[], h, fun other _ _ => Nat.zero_le _⟩

/-- If things are found behind `skipped` only, the first is the first there. -/
theorem firstFound_append {skipped : List Char}
    (h : ∀ before a, found before a ↔ ∃ later, before = skipped ++ later ∧ found' later a) :
    FirstFound found a ↔ FirstFound found' a := by
  constructor
  · rintro ⟨before, ha, hmin⟩
    obtain ⟨later, rfl, hlater⟩ := (h before a).1 ha
    refine ⟨later, hlater, fun other b hb => ?_⟩
    have hle := hmin _ b ((h _ b).2 ⟨other, rfl, hb⟩)
    rw [List.length_append, List.length_append] at hle
    omega
  · rintro ⟨later, ha, hmin⟩
    refine ⟨skipped ++ later, (h _ a).2 ⟨later, rfl, ha⟩, fun other b hb => ?_⟩
    obtain ⟨rest, rfl, hrest⟩ := (h other b).1 hb
    rw [List.length_append, List.length_append]
    exact Nat.add_le_add_left (hmin rest b hrest) _

theorem leftmost?_eq_some_iff_firstFound {f : List Char → Option α} {cs : List Char} :
    leftmost? f cs = some a ↔
      FirstFound (fun before a => ∃ rest, cs = before ++ rest ∧ f rest = some a) a := by
  rw [leftmost?_eq_some_iff]
  constructor
  · rintro ⟨before, rest, rfl, ha, hmin⟩
    refine ⟨before, ⟨rest, rfl, ha⟩, ?_⟩
    rintro other b ⟨r, hr, hb⟩
    refine Nat.le_of_not_lt fun hlt => ?_
    rw [hmin other r hr hlt] at hb
    cases hb
  · rintro ⟨before, ⟨rest, rfl, ha⟩, hmin⟩
    refine ⟨before, rest, rfl, ha, fun other r hr hlt => ?_⟩
    cases hb : f r with
    | none => rfl
    | some b => exact absurd (hmin other b ⟨r, hr, hb⟩) (Nat.not_le.2 hlt)

end

/-! ## Numbers behind a colon -/

/-- In front stand a colon, blanks, and then all of the digits `digits`. -/
def ColonNumber (cs digits : List Char) : Prop :=
  ∃ blanks after, cs = ':' :: (blanks ++ digits ++ after) ∧ (∀ c ∈ blanks, isBlank c = true) ∧
    digits ≠ [] ∧ (∀ c ∈ digits, isDigit c = true) ∧ Stops isDigit after

theorem digitsAfterColon?_eq_some_iff {cs digits : List Char} :
    digitsAfterColon? cs = some digits ↔ ColonNumber cs digits := by
  constructor
  · intro h
    unfold digitsAfterColon? at h
    split at h
    · next cs =>
      dsimp only at h
      split at h
      · cases h
      · next hne =>
        cases h
        refine ⟨cs.takeWhile isBlank, (cs.dropWhile isBlank).dropWhile isDigit, ?_,
          forall_takeWhile _ _, hne, forall_takeWhile _ _, stops_dropWhile _ _⟩
        rw [List.append_assoc, List.takeWhile_append_dropWhile, List.takeWhile_append_dropWhile]
    · cases h
  · rintro ⟨blanks, after, rfl, hblanks, hne, hdigits, hafter⟩
    have hstop : Stops isBlank (digits ++ after) := by
      obtain ⟨d, ds, rfl⟩ := List.exists_cons_of_ne_nil hne
      exact stops_cons.2 (isBlank_of_isDigit (hdigits d List.mem_cons_self))
    simp only [digitsAfterColon?, List.append_assoc, dropWhile_run hblanks hstop,
      takeWhile_run hdigits hafter, if_neg hne]

theorem ColonNumber.unique {cs digits digits' : List Char} (h : ColonNumber cs digits)
    (h' : ColonNumber cs digits') : digits' = digits := by
  rw [← digitsAfterColon?_eq_some_iff] at h h'
  exact Option.some.inj (h'.symm.trans h)

theorem ColonNumber.eq_cons {cs digits : List Char} (h : ColonNumber cs digits) :
    ∃ rest, cs = ':' :: rest := by
  obtain ⟨blanks, after, rfl, -⟩ := h
  exact ⟨_, rfl⟩

/-! ## Labelled numbers -/

/-- Behind `before` stand one of the labels and a number with the digits `digits`. -/
def LabelledNumber (labels : List (List Char)) (cs before digits : List Char) : Prop :=
  ∃ label ∈ labels, ∃ rest, cs = before ++ label ++ rest ∧ ColonNumber rest digits

theorem append_colon_inj {l l' rest rest' : List Char} (hl : ':' ∉ l) (hl' : ':' ∉ l')
    (h : l ++ ':' :: rest = l' ++ ':' :: rest') : l = l' ∧ rest = rest' := by
  have hrun {l : List Char} (hl : ':' ∉ l) : ∀ c ∈ l, decide (c ≠ ':') = true := by
    intro c hc
    rw [decide_eq_true_eq]
    rintro rfl
    exact hl hc
  have hstop (rest : List Char) : Stops (fun c => decide (c ≠ ':')) (':' :: rest) :=
    stops_cons.2 (by decide)
  have heq : l = l' := by
    rw [← takeWhile_run (hrun hl) (hstop rest), h, takeWhile_run (hrun hl') (hstop rest')]
  subst heq
  exact ⟨rfl, (List.cons.inj (List.append_cancel_left h)).2⟩

/-- A text starts with at most one label and a colon, whichever label is tried
    first. -/
theorem labelledHere?_eq_some_iff {labels : List (List Char)} (hlabels : ∀ l ∈ labels, ':' ∉ l)
    {cs digits : List Char} :
    labelledHere? labels cs = some digits ↔
      ∃ label ∈ labels, ∃ rest, cs = label ++ rest ∧ ColonNumber rest digits := by
  have hone (label : List Char) (d : List Char) :
      (after? label cs).bind digitsAfterColon? = some d ↔
        ∃ rest, cs = label ++ rest ∧ ColonNumber rest d := by
    simp only [Option.bind_eq_some_iff, after?_eq_some_iff, digitsAfterColon?_eq_some_iff]
  unfold labelledHere?
  constructor
  · intro h
    obtain ⟨label, hlabel, h⟩ := List.exists_of_findSome?_eq_some h
    exact ⟨label, hlabel, (hone label digits).1 h⟩
  · rintro ⟨label, hlabel, rest, hcs, hnumber⟩
    cases hfound : labels.findSome? fun label => (after? label cs).bind digitsAfterColon? with
    | none =>
      have hnone := List.findSome?_eq_none_iff.1 hfound label hlabel
      rw [(hone label digits).2 ⟨rest, hcs, hnumber⟩] at hnone
      cases hnone
    | some d =>
      obtain ⟨label', hlabel', h⟩ := List.exists_of_findSome?_eq_some hfound
      obtain ⟨rest', hcs', hnumber'⟩ := (hone label' d).1 h
      obtain ⟨r, rfl⟩ := hnumber.eq_cons
      obtain ⟨r', rfl⟩ := hnumber'.eq_cons
      obtain ⟨-, rfl⟩ := append_colon_inj (hlabels label hlabel) (hlabels label' hlabel')
        (hcs.symm.trans hcs')
      rw [hnumber.unique hnumber']

/-- **The labelled number that is found is the first in the text.** -/
theorem labelled?_eq_some_iff {labels : List (List Char)} (hlabels : ∀ l ∈ labels, ':' ∉ l)
    {cs digits : List Char} :
    labelled? labels cs = some digits ↔ FirstFound (LabelledNumber labels cs) digits := by
  unfold labelled?
  rw [leftmost?_eq_some_iff_firstFound]
  refine firstFound_congr fun before d => ?_
  simp only [labelledHere?_eq_some_iff hlabels]
  constructor
  · rintro ⟨_, rfl, label, hlabel, rest, rfl, hnumber⟩
    exact ⟨label, hlabel, rest, (List.append_assoc ..).symm, hnumber⟩
  · rintro ⟨label, hlabel, rest, rfl, hnumber⟩
    exact ⟨_, List.append_assoc .., label, hlabel, rest, rfl, hnumber⟩

/-! ## Lines of a block -/

/-- Behind `before` stand a word that no word character precedes, and a number. -/
def LineEntry (line before : List Char) (entry : List Char × List Char) : Prop :=
  ∃ rest, line = before ++ entry.1 ++ rest ∧ entry.1 ≠ [] ∧ (∀ c ∈ entry.1, isWord c = true) ∧
    (∀ c ∈ before.getLast?, isWord c = false) ∧ ColonNumber rest entry.2

theorem isWord_colon : isWord ':' = false := by decide

theorem ColonNumber.stops_isWord {cs digits : List Char} (h : ColonNumber cs digits) :
    Stops isWord cs := by
  obtain ⟨rest, rfl⟩ := h.eq_cons
  exact stops_cons.2 isWord_colon

section
variable {rest before : List Char} {entry : List Char × List Char}

theorem mem_getLast?_append {s t : List Char} {c : Char} (h : c ∈ t.getLast?) :
    c ∈ (s ++ t).getLast? := by
  rw [List.getLast?_append, Option.mem_def.1 h]
  rfl

theorem not_lineEntry_nil_of_stops (h : Stops isWord rest) : ¬ LineEntry rest [] entry := by
  rintro ⟨r, rfl, hne, hword, -⟩
  obtain ⟨c, cs, hc⟩ := List.exists_cons_of_ne_nil hne
  rw [hc] at h hword
  have hstop := stops_cons.1 h
  rw [hword c List.mem_cons_self] at hstop
  cases hstop

/-- Behind a character that is in no word, entries are those of the rest. -/
theorem lineEntry_cons {c : Char} (hc : isWord c = false) :
    LineEntry (c :: rest) before entry ↔
      ∃ later, before = [c] ++ later ∧ LineEntry rest later entry := by
  constructor
  · intro h
    cases before with
    | nil => exact absurd h (not_lineEntry_nil_of_stops (stops_cons.2 hc))
    | cons d later =>
      obtain ⟨r, hr, hne, hword, hlast, hnumber⟩ := h
      obtain ⟨rfl, rfl⟩ := List.cons.inj hr
      have hlast' : ∀ x ∈ later.getLast?, isWord x = false :=
        fun x hx => hlast x (@mem_getLast?_append [c] later x hx)
      exact ⟨later, rfl, r, rfl, hne, hword, hlast', hnumber⟩
  · rintro ⟨later, rfl, r, rfl, hne, hword, hlast, hnumber⟩
    refine ⟨r, rfl, hne, hword, fun x hx => ?_, hnumber⟩
    cases later with
    | nil => cases hx; exact hc
    | cons d later => exact hlast x hx

/-- With a whole word in front, the entries are that of the word, and those
    behind it. -/
theorem lineEntry_word {word : List Char} (hne : word ≠ []) (hword : ∀ c ∈ word, isWord c = true)
    (hstop : Stops isWord rest) :
    LineEntry (word ++ rest) before entry ↔
      (before = [] ∧ entry.1 = word ∧ ColonNumber rest entry.2) ∨
        ∃ later, before = word ++ later ∧ LineEntry rest later entry := by
  constructor
  · rintro ⟨r, hr, hne', hword', hlast, hnumber⟩
    rw [List.append_assoc] at hr
    rcases List.append_eq_append_iff.1 hr with ⟨later, rfl, rfl⟩ | ⟨cut, hcut, hr⟩
    · have hlast' : ∀ x ∈ later.getLast?, isWord x = false :=
        fun x hx => hlast x (mem_getLast?_append hx)
      exact .inr ⟨later, rfl, r, (List.append_assoc ..).symm, hne', hword', hlast', hnumber⟩
    · -- what ends inside the word ends with a word character
      have hnil : before = [] := by
        cases hb : before.getLast? with
        | none => exact List.getLast?_eq_none_iff.1 hb
        | some x =>
          have hx : x ∈ word := hcut ▸ List.mem_append_left _ (List.mem_of_getLast? hb)
          exact absurd (hword x hx) (by rw [hlast x hb]; exact Bool.false_ne_true)
      subst hnil
      rw [List.nil_append] at hcut
      subst hcut
      have htake := takeWhile_run hword' hnumber.stops_isWord
      have hdrop := dropWhile_run hword' hnumber.stops_isWord
      rw [hr, takeWhile_run hword hstop] at htake
      rw [hr, dropWhile_run hword hstop] at hdrop
      exact .inl ⟨rfl, htake.symm, hdrop ▸ hnumber⟩
  · rintro (⟨rfl, rfl, hnumber⟩ | ⟨later, rfl, h⟩)
    · exact ⟨rest, rfl, hne, hword, nofun, hnumber⟩
    · have hlater : later ≠ [] := by
        rintro rfl
        exact not_lineEntry_nil_of_stops hstop h
      obtain ⟨r, rfl, hne', hword', hlast, hnumber⟩ := h
      refine ⟨r, by simp only [List.append_assoc], hne', hword', fun x hx => hlast x ?_, hnumber⟩
      obtain ⟨y, hy⟩ := Option.isSome_iff_exists.1 (List.getLast?_isSome.2 hlater)
      rw [List.getLast?_append, hy] at hx
      rw [hy]
      exact hx

theorem lineEntry_cons_word {c : Char} (hc : isWord c = true) :
    LineEntry (c :: rest) before entry ↔
      (before = [] ∧ entry.1 = c :: rest.takeWhile isWord ∧
        ColonNumber (rest.dropWhile isWord) entry.2) ∨
      ∃ later, before = (c :: rest.takeWhile isWord) ++ later ∧
        LineEntry (rest.dropWhile isWord) later entry := by
  have hword : ∀ x ∈ c :: rest.takeWhile isWord, isWord x = true := by
    rw [List.forall_mem_cons]
    exact ⟨hc, forall_takeWhile _ _⟩
  rw [← lineEntry_word (List.cons_ne_nil _ _) hword (stops_dropWhile _ _), List.cons_append,
    List.takeWhile_append_dropWhile]

end

/-- **The entry that is found is the first in the line.** -/
theorem lineEntry?_eq_some_iff {line : List Char} {entry : List Char × List Char} :
    lineEntry? line = some entry ↔ FirstFound (LineEntry line) entry := by
  fun_induction lineEntry? line with
  | case1 =>
    refine ⟨nofun, ?_⟩
    rintro ⟨before, ⟨r, hr, hne, -⟩, -⟩
    have hword := List.append_eq_nil_iff.1 (List.append_eq_nil_iff.1 hr.symm).1
    exact absurd hword.2 hne
  | case2 c rest hc digits hdigits =>
    have hnumber := digitsAfterColon?_eq_some_iff.1 hdigits
    have hfound : LineEntry (c :: rest) [] (c :: rest.takeWhile isWord, digits) :=
      (lineEntry_cons_word hc).2 (.inl ⟨rfl, rfl, hnumber⟩)
    rw [firstFound_nil hfound, Option.some.injEq, eq_comm]
    intro other hother
    rcases (lineEntry_cons_word hc).1 hother with ⟨-, hword, hdigits'⟩ | ⟨later, hnil, -⟩
    · exact Prod.ext hword (hnumber.unique hdigits')
    · cases hnil
  | case3 c rest hc hdigits ih =>
    rw [ih]
    have hskip (before : List Char) (e : List Char × List Char) :
        LineEntry (c :: rest) before e ↔ ∃ later, before = (c :: rest.takeWhile isWord) ++ later ∧
          LineEntry (rest.dropWhile isWord) later e := by
      refine (lineEntry_cons_word hc).trans (or_iff_right ?_)
      rintro ⟨-, -, hnumber⟩
      rw [digitsAfterColon?_eq_some_iff.2 hnumber] at hdigits
      cases hdigits
    exact (firstFound_append hskip).symm
  | case4 c rest hc ih =>
    rw [ih]
    have hskip (before : List Char) (e : List Char × List Char) :
        LineEntry (c :: rest) before e ↔ ∃ later, before = [c] ++ later ∧ LineEntry rest later e :=
      lineEntry_cons (Bool.eq_false_iff.2 hc)
    exact (firstFound_append hskip).symm

/-! ## The body of a block -/

/-- The end of a line. -/
def LineEnd (cs : List Char) : Prop := cs = ['\n'] ∨ cs = ['\r', '\n']

/-- In front stand two line ends in turn. -/
def EmptyLine (cs : List Char) : Prop :=
  ∃ e e' rest, LineEnd e ∧ LineEnd e' ∧ cs = e ++ e' ++ rest

/-- `body` is what stands before the first empty line, or all if there is none. -/
def BeforeEmptyLine (cs body : List Char) : Prop :=
  ∃ after, cs = body ++ after ∧ (after = [] ∨ EmptyLine after) ∧
    ∀ b a, cs = b ++ a → b.length < body.length → ¬ EmptyLine a

theorem afterNewline?_eq_some_iff {cs rest : List Char} :
    afterNewline? cs = some rest ↔ ∃ e, LineEnd e ∧ cs = e ++ rest := by
  constructor
  · intro h
    unfold afterNewline? at h
    split at h
    · cases h; exact ⟨_, .inl rfl, rfl⟩
    · cases h; exact ⟨_, .inr rfl, rfl⟩
    · cases h
  · rintro ⟨e, rfl | rfl, rfl⟩ <;> rfl

theorem atEmptyLine_iff {cs : List Char} : atEmptyLine cs = true ↔ EmptyLine cs := by
  simp only [atEmptyLine, Option.isSome_iff_exists, Option.bind_eq_some_iff,
    afterNewline?_eq_some_iff]
  constructor
  · rintro ⟨rest, _, ⟨e, he, rfl⟩, e', he', rfl⟩
    exact ⟨e, e', rest, he, he', (List.append_assoc ..).symm⟩
  · rintro ⟨e, e', rest, he, he', rfl⟩
    exact ⟨rest, _, ⟨e, he, List.append_assoc ..⟩, e', he', rfl⟩

/-- **The text that is kept is what stands before the first empty line.** -/
theorem untilEmptyLine_eq_iff {cs body : List Char} :
    untilEmptyLine cs = body ↔ BeforeEmptyLine cs body := by
  induction cs generalizing body with
  | nil =>
    constructor
    · rintro rfl
      exact ⟨[], rfl, .inl rfl, nofun⟩
    · rintro ⟨after, h, -⟩
      exact (List.append_eq_nil_iff.1 h.symm).1.symm
  | cons c cs ih =>
    rw [untilEmptyLine]
    split
    · next hempty =>
      rw [atEmptyLine_iff] at hempty
      constructor
      · rintro rfl
        exact ⟨c :: cs, rfl, .inr hempty, nofun⟩
      · rintro ⟨after, -, -, hmin⟩
        cases body with
        | nil => rfl
        | cons d body => exact absurd hempty (hmin [] _ rfl (Nat.succ_pos _))
    · next hempty =>
      rw [atEmptyLine_iff] at hempty
      cases body with
      | nil =>
        refine ⟨nofun, ?_⟩
        rintro ⟨after, rfl, hafter | hafter, -⟩
        · cases hafter
        · exact absurd hafter hempty
      | cons d body =>
        rw [List.cons.injEq, ih]
        constructor
        · rintro ⟨rfl, after, rfl, hafter, hmin⟩
          refine ⟨after, rfl, hafter, fun b a hb hlt => ?_⟩
          cases b with
          | nil => rw [List.nil_append] at hb; rwa [← hb]
          | cons x b => exact hmin b a (List.cons.inj hb).2 (Nat.lt_of_succ_lt_succ hlt)
        · rintro ⟨after, h, hafter, hmin⟩
          obtain ⟨rfl, rfl⟩ := List.cons.inj h
          exact ⟨rfl, after, rfl, hafter, fun b a hb hlt =>
            hmin (c :: b) a (by rw [hb]; rfl) (Nat.succ_lt_succ hlt)⟩

/-- `body` is what stands between the first occurrence of `header` and the first
    empty line behind it. -/
def BodyAfter (header cs body : List Char) : Prop :=
  ∃ rest, FirstFound (fun before rest => cs = before ++ header ++ rest) rest ∧
    BeforeEmptyLine rest body

/-- **The body that is found is that of the first occurrence of the header.** -/
theorem bodyAfter?_eq_some_iff {header cs body : List Char} :
    bodyAfter? header cs = some body ↔ BodyAfter header cs body := by
  have hfirst (rest : List Char) : leftmost? (after? header) cs = some rest ↔
      FirstFound (fun before rest => cs = before ++ header ++ rest) rest := by
    rw [leftmost?_eq_some_iff_firstFound]
    refine firstFound_congr fun before rest => ?_
    simp only [after?_eq_some_iff, List.append_assoc]
    exact ⟨fun ⟨_, hcs, hrest⟩ => hrest ▸ hcs, fun hcs => ⟨_, hcs, rfl⟩⟩
  simp only [bodyAfter?, Option.map_eq_some_iff, hfirst, untilEmptyLine_eq_iff, BodyAfter]

/-- There is a body exactly if the header occurs. -/
theorem exists_bodyAfter_iff {header cs : List Char} :
    (∃ body, BodyAfter header cs body) ↔ header <:+: cs := by
  have hbody (rest : List Char) : ∃ body, BeforeEmptyLine rest body :=
    ⟨_, untilEmptyLine_eq_iff.1 rfl⟩
  have hfirst := @exists_firstFound_iff _ fun before rest => cs = before ++ header ++ rest
  constructor
  · rintro ⟨body, rest, hrest, -⟩
    obtain ⟨before, rest, rfl⟩ := hfirst.1 ⟨rest, hrest⟩
    exact ⟨before, rest, rfl⟩
  · rintro ⟨before, rest, rfl⟩
    obtain ⟨first, hrest⟩ := hfirst.2 ⟨before, rest, rfl⟩
    obtain ⟨body, hbody⟩ := hbody first
    exact ⟨body, first, hrest, hbody⟩

end PolicyBench.SimLog
