/-
  PolicyBench — the document of written JSON.

  A value is read in two stages, and each of them goes on right behind the value,
  whatever stands around it: its text is cut into its tokens (`Lexes`), and from its
  tokens its document is built (`Builds`).  So values can be put together.

  * `Document.ReadFrom`: the text of a document, with the lemmas for each kind of value;
  * `IsValue.exists_readFrom`: every value is read, and who skips it meets no fault;
  * `readAll_of_alone`: a text that is a value and blanks is read as its document.
-/
import PolicyBench.Json.Shape
import PolicyBench.Proofs.Json.Tokens

namespace PolicyBench.Json

open Text (Bytes)

/-! ## Cutting into tokens -/

/-- The text has these tokens wherever a value may end behind it. -/
def Lexes (cs : List Char) (ts : List Token) : Prop :=
  ∀ rest, Ends rest → tokens (bytes cs ++ rest) = ts ++ tokens rest

theorem Lexes.blanks_append {before cs : List Char} {ts : List Token} (hbefore : Blanks before)
    (h : Lexes cs ts) : Lexes (before ++ cs) ts := by
  intro rest hrest
  rw [bytes_append, List.append_assoc, tokens_blanks hbefore, h rest hrest]

theorem Lexes.append_blanks {cs after : List Char} {ts : List Token} (h : Lexes cs ts)
    (hafter : Blanks after) : Lexes (cs ++ after) ts := by
  intro rest hrest
  rw [bytes_append, List.append_assoc, h _ (ends_blanks hafter hrest), tokens_blanks hafter]

theorem Item.Padded.lexes {i : Item} (hi : i.Padded) {ts : List Token} (h : Lexes i.value ts) :
    Lexes i.text ts :=
  (h.append_blanks hi.after).blanks_append hi.before

theorem Member.Padded.lexes {m : Member} (hm : m.Padded) {units : List TextUnit}
    (hname : Scans m.name units) {ts : List Token} (h : Lexes m.item.value ts) :
    Lexes m.text (.text ⟨units, none⟩ :: .colon :: ts) := by
  refine Lexes.blanks_append hm.before fun rest hrest => ?_
  rw [bytes_append, List.append_assoc, tokens_string hname, bytes_append, List.append_assoc,
    tokens_blanks hm.after, bytes_cons_of_ascii (by decide), List.cons_append,
    tokens_punctuation (t := .colon) (by decide), hm.item.lexes h rest hrest]
  rfl

/-- Parts with commas between them. -/
theorem lexes_intercalate {parts : List (List Char)} {tss : List (List Token)}
    (h : List.Forall₂ Lexes parts tss) {part : List Char} {ts : List Token}
    (hpart : Lexes part ts) :
    Lexes ([','].intercalate (part :: parts)) (ts ++ tss.flatMap (.comma :: ·)) := by
  induction h generalizing part ts with
  | nil =>
    rw [List.intercalate_singleton, List.flatMap_nil, List.append_nil]
    exact hpart
  | @cons part' ts' parts tss hpart' _ ih =>
    intro rest hrest
    rw [List.intercalate_cons_cons, bytes_append, bytes_append, List.append_assoc,
      List.append_assoc, bytes_cons_of_ascii (by decide), bytes_nil, List.singleton_append,
      hpart _ (ends_cons (by decide) _), tokens_punctuation (t := .comma) (by decide),
      ih hpart' rest hrest]
    simp only [List.flatMap_cons, List.append_assoc, List.cons_append]

/-- The tokens between the brackets; `tss` are those of the parts. -/
def joinTokens : List (List Token) → List Token
  | [] => []
  | ts :: tss => ts ++ tss.flatMap (.comma :: ·)

/-- Brackets around parts. -/
theorem InBrackets.lexes {opening closing : Char} {parts : List (List Char)} {cs : List Char}
    (h : InBrackets opening closing parts cs) {o c : Token}
    (hbrackets : (opening, o, closing, c) ∈
      [('[', .openBracket, ']', .closeBracket), ('\x7b', .openBrace, '\x7d', .closeBrace)])
    {tss : List (List Token)} (hparts : List.Forall₂ Lexes parts tss) :
    Lexes cs (o :: (joinTokens tss ++ [c])) := by
  obtain ⟨ho, hopen, hc, hend, hclose⟩ : opening.toNat < 0x80 ∧
      (∀ rest, tokens (UInt8.ofNat opening.toNat :: rest) = o :: tokens rest) ∧
      closing.toNat < 0x80 ∧ (∀ rest, Ends (UInt8.ofNat closing.toNat :: rest)) ∧
      (∀ rest, tokens (UInt8.ofNat closing.toNat :: rest) = c :: tokens rest) := by
    simp only [List.mem_cons, List.not_mem_nil, or_false, Prod.mk.injEq] at hbrackets
    rcases hbrackets with ⟨rfl, rfl, rfl, rfl⟩ | ⟨rfl, rfl, rfl, rfl⟩
    all_goals exact ⟨by decide, tokens_punctuation (by decide), by decide,
      ends_cons (by decide), tokens_punctuation (by decide)⟩
  intro rest hrest
  cases h with
  | @empty blanks hblanks =>
    cases hparts
    rw [bytes_cons_of_ascii ho, bytes_append, bytes_cons_of_ascii hc, List.cons_append, hopen,
      List.append_assoc, tokens_blanks hblanks, List.cons_append, hclose]
    rfl
  | @parts part parts =>
    cases hparts with | @cons _ ts _ tss hpart hparts
    rw [bytes_cons_of_ascii ho, bytes_append, bytes_cons_of_ascii hc, List.cons_append, hopen,
      List.append_assoc, List.cons_append,
      lexes_intercalate hparts hpart _ (hend _), hclose]
    simp only [joinTokens, bytes_nil, List.nil_append, List.append_assoc, List.cons_append]

/-! ## Building -/

/-- From these tokens the document is built wherever a value may stand. -/
structure Builds (ts : List Token) (d : Document) : Prop where
  value : ∀ stack rest, build stack .value (ts ++ rest) = build stack (.next d) rest
  item : ∀ stack rest,
    build stack .itemOrEnd (ts ++ rest) = build (.array [] :: stack) (.next d) rest

/-- Only a bracket is the end of an array. -/
theorem Builds.of_value {t : Token} {ts : List Token} {d : Document} (ht : t ≠ .closeBracket)
    (h : ∀ stack rest, build stack .value (t :: ts ++ rest) = build stack (.next d) rest) :
    Builds (t :: ts) d := by
  refine ⟨h, fun stack rest => ?_⟩
  rw [← h (.array [] :: stack) rest, List.cons_append, build, build, if_neg ht]

/-- The items of an array. -/
def Items.ofList : List Document → Items
  | [] => .done none
  | d :: ds => .item d (.ofList ds)

/-- The members of an object. -/
def Members.ofList : List (Quoted × Document) → Members
  | [] => .done none
  | (name, d) :: members => .member name d (.ofList members)

theorem build_items {tss : List (List Token)} {ds : List Document}
    (h : List.Forall₂ Builds tss ds) (stack : List Frame) (before : List Document) (d : Document)
    (rest : List Token) :
    build (.array before :: stack) (.next d)
        (tss.flatMap (.comma :: ·) ++ .closeBracket :: rest) =
      build stack (.next (.array (.prepend (.item d (.ofList ds)) before))) rest := by
  induction h generalizing before d with
  | nil => rfl
  | @cons ts d' tss ds hts _ ih =>
    rw [List.flatMap_cons, List.append_assoc, List.cons_append, build, hts.value, ih]
    rfl

theorem Builds.array {tss : List (List Token)} {ds : List Document}
    (h : List.Forall₂ Builds tss ds) :
    Builds (.openBracket :: (joinTokens tss ++ [.closeBracket])) (.array (.ofList ds)) := by
  refine .of_value nofun fun stack rest => ?_
  cases h with
  | nil => rfl
  | @cons ts d tss ds hts hds =>
    have hopen (ts : List Token) :
        build stack .value (.openBracket :: ts) = build stack .itemOrEnd ts := rfl
    simp only [joinTokens, List.cons_append, List.append_assoc, List.nil_append]
    rw [hopen, hts.item, build_items hds]
    rfl

/-- The name of a member, and its value. -/
def BuildsMember (ts : List Token) (p : Quoted × Document) : Prop :=
  ∃ valueTokens, ts = .text p.1 :: .colon :: valueTokens ∧ Builds valueTokens p.2

theorem build_members {tss : List (List Token)} {ps : List (Quoted × Document)}
    (h : List.Forall₂ BuildsMember tss ps) (stack : List Frame)
    (before : List (Quoted × Document)) (name : Quoted) (d : Document) (rest : List Token) :
    build (.object before name :: stack) (.next d)
        (tss.flatMap (.comma :: ·) ++ .closeBrace :: rest) =
      build stack (.next (.object (.prepend (.member name d (.ofList ps)) before))) rest := by
  induction h generalizing before name d with
  | nil => rfl
  | @cons ts p tss ps hts _ ih =>
    obtain ⟨valueTokens, rfl, hvalue⟩ := hts
    have hcomma (ts : List Token) :
        build (.object before name :: stack) (.next d) (.comma :: .text p.1 :: .colon :: ts) =
          build (.object ((name, d) :: before) p.1 :: stack) .value ts := rfl
    rw [List.flatMap_cons, List.append_assoc, List.cons_append, List.cons_append,
      List.cons_append, hcomma, hvalue.value, ih]
    rfl

theorem Builds.object {tss : List (List Token)} {ps : List (Quoted × Document)}
    (h : List.Forall₂ BuildsMember tss ps) :
    Builds (.openBrace :: (joinTokens tss ++ [.closeBrace])) (.object (.ofList ps)) := by
  refine .of_value nofun fun stack rest => ?_
  cases h with
  | nil => rfl
  | @cons ts p tss ps hts hps =>
    obtain ⟨valueTokens, rfl, hvalue⟩ := hts
    have hopen (ts : List Token) :
        build stack .value (.openBrace :: .text p.1 :: .colon :: ts) =
          build (.object [] p.1 :: stack) .value ts := rfl
    simp only [joinTokens, List.cons_append, List.append_assoc, List.nil_append]
    rw [hopen, hvalue.value, build_members hps]
    rfl

/-! ## The text of a document -/

/-- The text is read as the document, wherever it stands. -/
def Document.ReadFrom (d : Document) (cs : List Char) : Prop := ∃ ts, Lexes cs ts ∧ Builds ts d

theorem readFrom_null : Document.null.ReadFrom "null".toList :=
  ⟨[.null], fun rest _ => tokens_null rest, .of_value nofun fun _ _ => rfl⟩

theorem readFrom_bool (b : Bool) :
    (Document.bool b).ReadFrom (if b then "true" else "false").toList :=
  ⟨[.bool b], fun rest _ => tokens_bool b rest, .of_value nofun fun _ _ => rfl⟩

theorem SpelledNumber.readFrom {n : NumberText} {cs : List Char} (h : SpelledNumber n cs) :
    (Document.number n).ReadFrom cs := by
  have hfault : n.fault = none := by cases h; rfl
  refine ⟨[.number n], fun rest hrest => tokens_number h hrest, ?_⟩
  refine .of_value nofun fun stack rest => ?_
  rw [List.singleton_append, build, startValue, hfault]
  rfl

theorem Scans.readFrom {cs : List Char} {units : List TextUnit} (h : Scans cs units) :
    (Document.text ⟨units, none⟩).ReadFrom (inQuotes cs) :=
  ⟨[.text ⟨units, none⟩], fun rest _ => tokens_string h rest, .of_value nofun fun _ _ => rfl⟩

/-- The items are read from the texts between the brackets. -/
theorem IsArray.readFrom {items : List Item} {cs : List Char} (h : IsArray items cs)
    {ds : List Document} (hitems : List.Forall₂ (fun i d => d.ReadFrom i.value) items ds) :
    (Document.array (.ofList ds)).ReadFrom cs := by
  obtain ⟨hpadded, hwritten⟩ := h
  obtain ⟨tss, htexts, hbuilds⟩ : ∃ tss, List.Forall₂ Lexes (items.map Item.text) tss ∧
      List.Forall₂ Builds tss ds := by
    clear hwritten
    induction hitems with
    | nil => exact ⟨[], .nil, .nil⟩
    | @cons i d items ds hi _ ih =>
      obtain ⟨ts, hlexes, hbuilds⟩ := hi
      obtain ⟨tss, htexts, htss⟩ := ih fun i hi => hpadded i (List.mem_cons_of_mem _ hi)
      exact ⟨ts :: tss, .cons ((hpadded i List.mem_cons_self).lexes hlexes) htexts,
        .cons hbuilds htss⟩
  exact ⟨_, hwritten.lexes (by decide) htexts, .array hbuilds⟩

/-- The name and the value are read from the parts of the member. -/
structure Member.ReadAs (m : Member) (p : Quoted × Document) : Prop where
  name : ∃ units, Scans m.name units ∧ p.1 = ⟨units, none⟩
  value : p.2.ReadFrom m.item.value

/-- The members are read from the texts between the braces. -/
theorem IsObject.readFrom {members : List Member} {cs : List Char} (h : IsObject members cs)
    {ps : List (Quoted × Document)} (hmembers : List.Forall₂ Member.ReadAs members ps) :
    (Document.object (.ofList ps)).ReadFrom cs := by
  obtain ⟨hpadded, hwritten⟩ := h
  obtain ⟨tss, htexts, hbuilds⟩ : ∃ tss, List.Forall₂ Lexes (members.map Member.text) tss ∧
      List.Forall₂ BuildsMember tss ps := by
    clear hwritten
    induction hmembers with
    | nil => exact ⟨[], .nil, .nil⟩
    | @cons m p members ps hm _ ih =>
      obtain ⟨⟨units, hscans, hname⟩, ts, hlexes, hbuilds⟩ := hm
      obtain ⟨tss, htexts, htss⟩ := ih fun m hm => hpadded m (List.mem_cons_of_mem _ hm)
      exact ⟨_, .cons ((hpadded m List.mem_cons_self).lexes hscans hlexes) htexts,
        .cons ⟨ts, by rw [hname], hbuilds⟩ htss⟩
  exact ⟨_, hwritten.lexes (by decide) htexts, .object hbuilds⟩

/-! ## Any value -/

/-- A list can be chosen element by element. -/
theorem exists_forall₂ {α β γ : Type} {R : α → β → Prop} {S : β → γ → Prop} {T : α → γ → Prop}
    (h : ∀ a b, R a b → ∃ c, S b c ∧ T a c) {as : List α} {bs : List β}
    (hlists : List.Forall₂ R as bs) : ∃ cs, List.Forall₂ S bs cs ∧ List.Forall₂ T as cs := by
  induction hlists with
  | nil => exact ⟨[], .nil, .nil⟩
  | cons hab _ ih =>
    obtain ⟨c, hbc, hac⟩ := h _ _ hab
    obtain ⟨cs, hbs, has⟩ := ih
    exact ⟨c :: cs, .cons hbc hbs, .cons hac has⟩

theorem exists_forall₂_of_mem {α γ : Type} {S T : α → γ → Prop} {as : List α}
    (h : ∀ a ∈ as, ∃ c, S a c ∧ T a c) :
    ∃ cs, List.Forall₂ S as cs ∧ List.Forall₂ T as cs :=
  exists_forall₂ (R := fun a a' => a = a' ∧ a ∈ as)
    (by rintro a _ ⟨rfl, ha⟩; exact h a ha) (List.forall₂_same.2 fun _ ha => ⟨rfl, ha⟩)

theorem ignoredFault?_items {items : List Item} {ds : List Document}
    (h : List.Forall₂ (fun _ d => d.ignoredFault? = none) items ds) :
    (Items.ofList ds).ignoredFault? = none := by
  induction h with
  | nil => rfl
  | cons hd _ ih => rw [Items.ofList, Items.ignoredFault?, hd, ih]; rfl

theorem ignoredFault?_members {members : List Member} {ps : List (Quoted × Document)}
    (h : List.Forall₂ (fun _ p => p.1.fault = none ∧ p.2.ignoredFault? = none) members ps) :
    (Members.ofList ps).ignoredFault? = none := by
  induction h with
  | nil => rfl
  | cons hp _ ih => rw [Members.ofList, Members.ignoredFault?, hp.1, hp.2, ih]; rfl

/-- **Whatever is nested in a value, it is read, and who skips it meets no fault.** -/
theorem IsValue.exists_readFrom {cs : List Char} (h : IsValue cs) :
    ∃ d : Document, d.ReadFrom cs ∧ d.ignoredFault? = none := by
  induction h with
  | word hcs =>
    simp only [List.mem_cons, List.not_mem_nil, or_false] at hcs
    rcases hcs with rfl | rfl | rfl
    · exact ⟨_, readFrom_null, rfl⟩
    · exact ⟨_, readFrom_bool true, rfl⟩
    · exact ⟨_, readFrom_bool false, rfl⟩
  | @number n cs hn =>
    have hfault : n.fault = none := by cases hn; rfl
    exact ⟨_, hn.readFrom, by rw [Document.ignoredFault?, hfault]; rfl⟩
  | string hcs =>
    obtain ⟨units, hscans⟩ := hcs.exists_scans
    exact ⟨_, hscans.readFrom, rfl⟩
  | @array items cs harray _ ih =>
    obtain ⟨ds, hread, hfault⟩ := exists_forall₂_of_mem ih
    exact ⟨_, harray.readFrom hread, ignoredFault?_items hfault⟩
  | @object members cs hobject hnames _ ih =>
    have hmember (m : Member) (hm : m ∈ members) :
        ∃ p, m.ReadAs p ∧ p.1.fault = none ∧ p.2.ignoredFault? = none := by
      obtain ⟨units, hscans⟩ := (hnames m hm).exists_scans
      obtain ⟨d, hread, hfault⟩ := ih m hm
      exact ⟨(⟨units, none⟩, d), ⟨⟨units, hscans, rfl⟩, hread⟩, rfl, hfault⟩
    obtain ⟨ps, hread, hfault⟩ := exists_forall₂_of_mem hmember
    exact ⟨_, hobject.readFrom hread, ignoredFault?_members hfault⟩

/-! ## Whole texts -/

theorem Document.ofTokens_of_readFrom {d : Document} {before cs after : List Char}
    (hbefore : Blanks before) (h : d.ReadFrom cs) (hafter : Blanks after) :
    Document.ofTokens (tokens (bytes (before ++ (cs ++ after)))) = (d, []) := by
  obtain ⟨ts, hlexes, hbuilds⟩ := h
  have htokens := (hlexes.append_blanks hafter).blanks_append hbefore [] ends_nil
  rw [List.append_nil] at htokens
  rw [htokens, Document.ofTokens, hbuilds.value, tokens, build]

/-- A text that is a value and blanks is read as the document of the value. -/
theorem readAll_of_alone {α : Type} {read : Document → Except Fault α} {a : α}
    {p : List Char → Prop} (hp : ∀ cs, p cs → ∃ d : Document, d.ReadFrom cs ∧ read d = .ok a)
    {cs : List Char} (h : Alone p cs) : readAll read (bytes cs) = .ok a := by
  obtain @⟨before, cs, after, hbefore, hcs, hafter⟩ := h
  obtain ⟨d, hd, hread⟩ := hp cs hcs
  rw [readAll, Document.ofTokens_of_readFrom hbefore hd hafter]
  dsimp only
  rw [hread]
  rfl

/-- If the value is refused, so is the text. -/
theorem readAll_refused {α : Type} {read : Document → Except Fault α} {p : List Char → Prop}
    (hp : ∀ cs, p cs → ∃ d : Document, d.ReadFrom cs ∧ ∃ fault, read d = .error fault)
    {cs : List Char} (h : Alone p cs) : ∃ fault, readAll read (bytes cs) = .error fault := by
  obtain @⟨before, cs, after, hbefore, hcs, hafter⟩ := h
  obtain ⟨d, hd, fault, hread⟩ := hp cs hcs
  refine ⟨fault, ?_⟩
  rw [readAll, Document.ofTokens_of_readFrom hbefore hd hafter]
  dsimp only
  rw [hread]
  rfl

end PolicyBench.Json
