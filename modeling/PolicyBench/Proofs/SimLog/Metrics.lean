/-
  PolicyBench — which metrics a log reports.

  The scalars and the blocks put their metrics under names that do not meet, so
  that each of them can be looked at alone.

  * `get?_readScalars`, `get?_readLines`, `get?_readBlocks`: what a step of the
    reading leaves under a name;
  * `get?_read_name`, `get?_read_family`: under the name of a scalar stands what
    the scalar gives, under the names of a block what the block gives;
  * `get?_read_scalar_iff`, `get?_read_block_iff`: both in terms of the text.
-/
import PolicyBench.Proofs.Count
import PolicyBench.Proofs.NameMap
import PolicyBench.Proofs.SimLog.Scan
import PolicyBench.SimLog.Metrics

namespace PolicyBench.SimLog

open PolicyBench.Text

/-! ## Values -/

theorem value_readValue (name : String) (digits : List Char) :
    (readValue name digits).value = (readCount digits).toOption := by
  unfold readValue
  cases readCount digits with
  | ok n => rfl
  | error problem => rfl

/-- Digits give a value exactly if they stand for a count. -/
theorem ColonNumber.toOption_readCount_eq_some_iff {cs digits : List Char}
    (h : ColonNumber cs digits) {n : UInt64} :
    (readCount digits).toOption = some n ↔ Counts digits n := by
  obtain ⟨_, _, -, -, hne, hdigits, -⟩ := h
  have hsign : '+' ∉ digits := fun h => absurd (hdigits '+' h) (by decide)
  rw [← readCount_eq_ok_iff hne hsign]
  cases readCount digits <;> simp [Except.toOption]

theorem value_read_scalar (scalar : Scalar) (cs : List Char) :
    (scalar.read cs).value = (labelled? (scalar.labels.map String.toList) cs).bind
      fun digits => (readCount digits).toOption := by
  unfold Scalar.read
  cases labelled? (scalar.labels.map String.toList) cs with
  | none => rfl
  | some digits => exact value_readValue ..

/-- What a line of the block gives under a name. -/
def Block.lineValue? (block : Block) (key : String) (line : List Char) : Option UInt64 :=
  lineEntry? line |>.bind fun entry =>
    if key = block.metricName entry.1 then (readCount entry.2).toOption else none

/-- What the block gives under a name: the first value of a line. -/
def Block.value? (block : Block) (key : String) (cs : List Char) : Option UInt64 :=
  (bodyAfter? block.header.toList cs).bind fun body =>
    (Text.lines body).findSome? (block.lineValue? key)

/-! ## Steps of the reading -/

/-- Scalars replace what stands under their names. -/
theorem get?_readScalars (cs : List Char) (metrics : Metrics) (list : List Scalar) (key : String) :
    (readScalars cs metrics list).value.get? key =
      (list.reverse.findSome? fun s => if key = s.name then (s.read cs).value else none).or
        (metrics.get? key) := by
  induction list generalizing metrics with
  | nil => rfl
  | cons scalar rest ih =>
    rw [readScalars, Logged.value_bind, List.reverse_cons, List.findSome?_append, Option.or_assoc]
    cases hvalue : (scalar.read cs).value with
    | none => simp [ih, hvalue]
    | some n =>
      simp only [ih, NameMap.get?_insert]
      split <;> simp [*]

/-- A line leaves what is there, and else gives its value. -/
theorem get?_readLines (block : Block) (metrics : Metrics) (list : List (List Char))
    (key : String) :
    (block.readLines metrics list).value.get? key =
      (metrics.get? key).or (list.findSome? (block.lineValue? key)) := by
  induction list generalizing metrics with
  | nil => rw [Block.readLines, Logged.value_pure, List.findSome?_nil, Option.or_none]
  | cons line rest ih =>
    rw [Block.readLines, List.findSome?_cons]
    cases hentry : lineEntry? line with
    | none => simp [ih, Block.lineValue?, hentry]
    | some entry =>
      dsimp only
      rw [Logged.value_bind, value_readValue]
      cases hvalue : (readCount entry.2).toOption with
      | none => simp [ih, Block.lineValue?, hentry, hvalue]
      | some n =>
        simp only [ih, NameMap.get?_insertNew, Block.lineValue?, hentry, Option.bind_some, hvalue,
          Option.or_assoc]
        split <;> simp [*]

theorem get?_readBlocks (cs : List Char) (metrics : Metrics) (list : List Block) (key : String) :
    (readBlocks cs metrics list).value.get? key =
      (metrics.get? key).or (list.findSome? fun block => block.value? key cs) := by
  induction list generalizing metrics with
  | nil => rw [readBlocks, Logged.value_pure, List.findSome?_nil, Option.or_none]
  | cons block rest ih =>
    rw [readBlocks, Logged.value_bind, ih, List.findSome?_cons]
    have hblock : (block.read cs metrics).value.get? key =
        (metrics.get? key).or (block.value? key cs) := by
      unfold Block.read Block.value?
      cases bodyAfter? block.header.toList cs with
      | none => exact (Option.or_none ..).symm
      | some body => exact get?_readLines ..
    rw [hblock, Option.or_assoc]
    cases block.value? key cs <;> rfl

theorem get?_read (text key : String) :
    (read text).value.get? key =
      (scalars.reverse.findSome? fun s =>
        if key = s.name then (s.read text.toList).value else none).or
      (blocks.findSome? fun block => block.value? key text.toList) := by
  unfold read
  dsimp only
  rw [Logged.value_bind, get?_readBlocks, get?_readScalars, NameMap.get?_empty, Option.or_none]

/-! ## Names that do not meet -/

theorem findSome?_eq_of_mem {α β : Type} {l : List α} {f : α → Option β} {a : α} (ha : a ∈ l)
    (h : ∀ b ∈ l, f b ≠ none → b = a) : l.findSome? f = f a := by
  induction l with
  | nil => cases ha
  | cons b rest ih =>
    rw [List.findSome?_cons]
    cases hb : f b with
    | some v =>
      obtain rfl := h b List.mem_cons_self (by rw [hb]; exact Option.some_ne_none v)
      exact hb.symm
    | none =>
      rcases List.mem_cons.1 ha with rfl | ha
      · rw [hb]
        refine List.findSome?_eq_none_iff.2 fun c hc => ?_
        cases hfc : f c with
        | none => rfl
        | some v =>
          obtain rfl := h c (List.mem_cons_of_mem _ hc) (by rw [hfc]; exact Option.some_ne_none v)
          exact hfc.symm.trans hb
      · exact ih ha fun c hc => h c (List.mem_cons_of_mem _ hc)

theorem eq_of_name_eq {s t : Scalar} (hs : s ∈ scalars) (ht : t ∈ scalars)
    (h : s.name = t.name) : s = t := by
  simp only [scalars, List.mem_cons, List.not_mem_nil, or_false] at hs ht
  rcases hs with rfl | rfl <;> rcases ht with rfl | rfl
  · rfl
  · exact absurd h (by decide)
  · exact absurd h (by decide)
  · rfl

theorem not_family_prefix_name {block : Block} {scalar : Scalar} (hb : block ∈ blocks)
    (hs : scalar ∈ scalars) : ¬ block.family.toList <+: scalar.name.toList := by
  simp only [blocks, scalars, List.mem_cons, List.not_mem_nil, or_false] at hb hs
  rcases hb with rfl | rfl <;> rcases hs with rfl | rfl <;> decide

/-- A name is in one family at most. -/
theorem eq_of_family_prefix {b c : Block} (hb : b ∈ blocks) (hc : c ∈ blocks) {key : List Char}
    (h : b.family.toList <+: key) (h' : c.family.toList <+: key) : c = b := by
  have hprefix := List.prefix_or_prefix_of_prefix h h'
  simp only [blocks, List.mem_cons, List.not_mem_nil, or_false] at hb hc
  rcases hb with rfl | rfl <;> rcases hc with rfl | rfl
  · rfl
  · exact absurd hprefix (by decide)
  · exact absurd hprefix (by decide)
  · rfl

theorem family_prefix_metricName (block : Block) (word : List Char) :
    block.family.toList <+: (block.metricName word).toList := by
  rw [Block.metricName, String.toList_append]
  exact List.prefix_append ..

/-- A block gives values only under the names of its metrics, which are made of
    the words in its lines. -/
theorem Block.eq_metricName_of_value? {block : Block} {key : String} {cs : List Char}
    (h : block.value? key cs ≠ none) :
    ∃ word, word ≠ [] ∧ (∀ c ∈ word, isWord c = true) ∧ key = block.metricName word := by
  obtain ⟨n, hn⟩ := Option.ne_none_iff_exists'.1 h
  rw [value?, Option.bind_eq_some_iff] at hn
  obtain ⟨body, -, hn⟩ := hn
  obtain ⟨line, -, hn⟩ := List.exists_of_findSome?_eq_some hn
  rw [lineValue?, Option.bind_eq_some_iff] at hn
  obtain ⟨entry, hentry, hn⟩ := hn
  obtain ⟨_, ⟨_, -, hne, hword, -⟩, -⟩ := lineEntry?_eq_some_iff.1 hentry
  split at hn
  · next hkey => exact ⟨entry.1, hne, hword, hkey⟩
  · cases hn

/-- Those names are all in the family of the block. -/
theorem Block.family_prefix_of_value? {block : Block} {key : String} {cs : List Char}
    (h : block.value? key cs ≠ none) : block.family.toList <+: key.toList := by
  obtain ⟨word, -, -, rfl⟩ := eq_metricName_of_value? h
  exact family_prefix_metricName ..

/-- Under the name of a scalar stands what the scalar gives. -/
theorem get?_read_name {scalar : Scalar} (h : scalar ∈ scalars) (text : String) :
    (read text).value.get? scalar.name = (scalar.read text.toList).value := by
  have hscalars : (scalars.reverse.findSome? fun s =>
      if scalar.name = s.name then (s.read text.toList).value else none) =
        (scalar.read text.toList).value := by
    rw [findSome?_eq_of_mem (List.mem_reverse.2 h), if_pos rfl]
    intro s hs hvalue
    split at hvalue
    · next hname => exact (eq_of_name_eq h (List.mem_reverse.1 hs) hname).symm
    · exact absurd rfl hvalue
  have hblocks : (blocks.findSome? fun block => block.value? scalar.name text.toList) = none := by
    refine List.findSome?_eq_none_iff.2 fun block hblock => Decidable.byContradiction fun hne => ?_
    exact not_family_prefix_name hblock h (Block.family_prefix_of_value? hne)
  rw [get?_read, hscalars, hblocks, Option.or_none]

/-- Under the names of a block stands what the block gives. -/
theorem get?_read_family {block : Block} (h : block ∈ blocks) {key : String}
    (hkey : block.family.toList <+: key.toList) (text : String) :
    (read text).value.get? key = block.value? key text.toList := by
  have hscalars : (scalars.reverse.findSome? fun s =>
      if key = s.name then (s.read text.toList).value else none) = none := by
    refine List.findSome?_eq_none_iff.2 fun s hs => if_neg ?_
    rintro rfl
    exact not_family_prefix_name h (List.mem_reverse.1 hs) hkey
  rw [get?_read, hscalars, Option.none_or]
  exact findSome?_eq_of_mem h fun c hc hvalue =>
    eq_of_family_prefix h hc hkey (Block.family_prefix_of_value? hvalue)

/-! ## Scalars -/

theorem colon_notMem_label {scalar : Scalar} (h : scalar ∈ scalars) :
    ∀ label ∈ scalar.labels.map String.toList, ':' ∉ label := by
  simp only [scalars, List.mem_cons, List.not_mem_nil, or_false] at h
  rcases h with rfl | rfl <;> decide

/-- **A scalar is what the first labelled number stands for.**  That number is
    the one with the shortest text before its label; if it is no count, nothing
    is reported, whatever follows. -/
theorem get?_read_scalar_iff {scalar : Scalar} (h : scalar ∈ scalars) (text : String) :
    (∀ digits digits',
      FirstFound (LabelledNumber (scalar.labels.map String.toList) text.toList) digits →
      FirstFound (LabelledNumber (scalar.labels.map String.toList) text.toList) digits' →
        digits' = digits) ∧
    ∀ n, (read text).value.get? scalar.name = some n ↔
      ∃ digits, FirstFound (LabelledNumber (scalar.labels.map String.toList) text.toList) digits ∧
        Counts digits n := by
  simp only [← labelled?_eq_some_iff (colon_notMem_label h)]
  refine ⟨fun digits digits' hd hd' => Option.some.inj (hd'.symm.trans hd), fun n => ?_⟩
  rw [get?_read_name h, value_read_scalar, Option.bind_eq_some_iff]
  refine exists_congr fun digits => and_congr_right fun hdigits => ?_
  obtain ⟨_, ⟨_, _, _, -, hnumber⟩, -⟩ := (labelled?_eq_some_iff (colon_notMem_label h)).1 hdigits
  exact hnumber.toOption_readCount_eq_some_iff

/-- A label without a number hides nothing, the number may be on a later line,
    and the second number does not count. -/
theorem get?_read_cycles :
    (⟨totalCycles, ["memory_system_cycles", "total_cycles"]⟩ : Scalar) ∈ scalars ∧
    ∃ digits, FirstFound (LabelledNumber
        (["memory_system_cycles", "total_cycles"].map String.toList)
        "total_cycles: n/a\nxmemory_system_cycles:\n 007\ntotal_cycles: 9".toList) digits ∧
      Counts digits 7 :=
  ⟨.head _, ((get?_read_scalar_iff (.head _) _).2 7).1 (by decide)⟩

/-! ## Blocks -/

/-- The first line with a usable number for the word has the number `n`. -/
def FirstUsable (list : List (List Char)) (word : List Char) (n : UInt64) : Prop :=
  ∃ earlier line later digits, list = earlier ++ line :: later ∧
    FirstFound (LineEntry line) (word, digits) ∧ Counts digits n ∧
    ∀ other ∈ earlier, ∀ digits' m, FirstFound (LineEntry other) (word, digits') →
      ¬ Counts digits' m

theorem Block.lineValue?_metricName_eq_some_iff {block : Block} {word line : List Char}
    {n : UInt64} :
    block.lineValue? (block.metricName word) line = some n ↔
      ∃ digits, FirstFound (LineEntry line) (word, digits) ∧ Counts digits n := by
  rw [lineValue?, Option.bind_eq_some_iff]
  constructor
  · rintro ⟨⟨w, digits⟩, hentry, hvalue⟩
    rw [lineEntry?_eq_some_iff] at hentry
    obtain ⟨_, ⟨_, _, _, _, _, hnumber⟩, -⟩ := id hentry
    split at hvalue
    · next hname =>
      obtain rfl : word = w := by
        simpa [metricName, String.append_right_inj, String.ofList_inj] using hname
      exact ⟨digits, hentry, hnumber.toOption_readCount_eq_some_iff.1 hvalue⟩
    · cases hvalue
  · rintro ⟨digits, hentry, hcounts⟩
    obtain ⟨_, ⟨_, _, _, _, _, hnumber⟩, -⟩ := id hentry
    refine ⟨(word, digits), lineEntry?_eq_some_iff.2 hentry, ?_⟩
    rw [if_pos rfl]
    exact hnumber.toOption_readCount_eq_some_iff.2 hcounts

theorem findSome?_lineValue?_eq_some_iff {block : Block} {list : List (List Char)}
    {word : List Char} {n : UInt64} :
    list.findSome? (block.lineValue? (block.metricName word)) = some n ↔
      FirstUsable list word n := by
  have hnone (line : List Char) : block.lineValue? (block.metricName word) line = none ↔
      ∀ digits m, FirstFound (LineEntry line) (word, digits) → ¬ Counts digits m := by
    rw [Option.eq_none_iff_forall_ne_some]
    constructor
    · intro h digits m hfirst hcounts
      exact h m (Block.lineValue?_metricName_eq_some_iff.2 ⟨digits, hfirst, hcounts⟩)
    · intro h m hm
      obtain ⟨digits, hfirst, hcounts⟩ := Block.lineValue?_metricName_eq_some_iff.1 hm
      exact h digits m hfirst hcounts
  simp only [List.findSome?_eq_some_iff, Block.lineValue?_metricName_eq_some_iff, hnone,
    FirstUsable]
  constructor
  · rintro ⟨earlier, line, later, hlist, ⟨digits, hfirst, hcounts⟩, hearlier⟩
    exact ⟨earlier, line, later, digits, hlist, hfirst, hcounts, hearlier⟩
  · rintro ⟨earlier, line, later, digits, hlist, hfirst, hcounts, hearlier⟩
    exact ⟨earlier, line, later, hlist, ⟨digits, hfirst, hcounts⟩, hearlier⟩

/-- What a block gives depends on its body alone. -/
theorem Block.value?_of_body {block : Block} {cs body : List Char}
    (h : BodyAfter block.header.toList cs body) (key : String) :
    block.value? key cs = (Text.lines body).findSome? (block.lineValue? key) := by
  rw [value?, bodyAfter?_eq_some_iff.2 h, Option.bind_some]

/-- **A block reports what the lines of its body say.**  Without its header
    nothing is reported under the names of the block; with it, a word is reported
    with the first usable number that a line of the body has for it; and nothing
    outside the body counts. -/
theorem get?_read_block_iff {block : Block} (h : block ∈ blocks) :
    (∀ text : String, ¬ block.header.toList <:+: text.toList →
      ∀ key : String, block.family.toList <+: key.toList → (read text).value.get? key = none) ∧
    (∀ text : String, block.header.toList <:+: text.toList →
      ∃ body, BodyAfter block.header.toList text.toList body) ∧
    (∀ (text : String) (body : List Char), BodyAfter block.header.toList text.toList body →
      ∀ word n, (read text).value.get? (block.metricName word) = some n ↔
        FirstUsable (Text.lines body) word n) ∧
    ∀ (text text' : String) (body : List Char),
      BodyAfter block.header.toList text.toList body →
      BodyAfter block.header.toList text'.toList body →
      ∀ key : String, block.family.toList <+: key.toList →
        (read text).value.get? key = (read text').value.get? key := by
  refine ⟨fun text hheader key hkey => ?_, fun text => exists_bodyAfter_iff.2,
    fun text body hbody word n => ?_, fun text text' body hbody hbody' key hkey => ?_⟩
  · have hnone : bodyAfter? block.header.toList text.toList = none := by
      rw [Option.eq_none_iff_forall_ne_some]
      intro body hbody
      exact hheader (exists_bodyAfter_iff.1 ⟨body, bodyAfter?_eq_some_iff.1 hbody⟩)
    rw [get?_read_family h hkey, Block.value?, hnone, Option.bind_none]
  · rw [get?_read_family h (family_prefix_metricName ..), Block.value?_of_body hbody]
    exact findSome?_lineValue?_eq_some_iff
  · rw [get?_read_family h hkey, get?_read_family h hkey, Block.value?_of_body hbody,
      Block.value?_of_body hbody']

/-- The body starts on the line of the header and ends at the empty line. -/
theorem get?_read_conflicts :
    (⟨"Bank Conflict Statistics:", "conflict_"⟩ : Block) ∈ blocks ∧
    (read "row: 4\nBank Conflict Statistics:row: 5\r\n\nbank: 6").value.get?
      (Block.metricName ⟨"Bank Conflict Statistics:", "conflict_"⟩ ['r', 'o', 'w']) = some 5 := by
  have hblock : (⟨"Bank Conflict Statistics:", "conflict_"⟩ : Block) ∈ blocks := .tail _ (.head _)
  have hbody : BodyAfter "Bank Conflict Statistics:".toList
      "row: 4\nBank Conflict Statistics:row: 5\r\n\nbank: 6".toList "row: 5".toList :=
    bodyAfter?_eq_some_iff.1 (by decide)
  have hnumber : ColonNumber [':', ' ', '5'] ['5'] :=
    ⟨[' '], [], rfl, List.all_eq_true.1 rfl, by decide, List.all_eq_true.1 rfl, stops_nil⟩
  have hentry : LineEntry "row: 5".toList [] (['r', 'o', 'w'], ['5']) :=
    ⟨_, rfl, by decide, List.all_eq_true.1 rfl, nofun, hnumber⟩
  have hcounts : Counts ['5'] 5 := ⟨List.forall_mem_singleton.2 (by decide), by decide, by decide⟩
  refine ⟨hblock, ((get?_read_block_iff hblock).2.2.1 _ _ hbody _ 5).2 ?_⟩
  exact ⟨[], "row: 5".toList, [], ['5'], by decide,
    ⟨[], hentry, fun _ _ _ => Nat.zero_le _⟩, hcounts, nofun⟩

end PolicyBench.SimLog
