/-
  PolicyBench — the tokens of written JSON.

  Each piece of the grammar is read as its token, and reading goes on right behind it.
  Only a number needs to know what follows: a character that cannot belong to it.

  * `bytes`: characters in UTF-8; `Ends`: what may follow a value;
  * `tokens_blanks`, `tokens_string`, `tokens_number` and others: the pieces, one by one;
  * `Scans`: what the first stage makes of a string; `Spells.exists_scans`: a string that
    is spelled has the text that it spells.
-/
import Mathlib.Tactic.SplitIfs
import PolicyBench.Json.Token
import PolicyBench.Proofs.Json.Grammar

namespace PolicyBench.Json

-- What holds of all elements of a list is decided on the list, also where its type is finite.
attribute [local instance (high)] List.decidableBAll

open Text (Bytes)

/-! ## Bytes -/

/-- Characters in UTF-8. -/
def bytes (cs : List Char) : Bytes := cs.flatMap String.utf8EncodeChar

theorem utf8_eq_bytes (s : String) : Text.utf8 s = bytes s.toList := rfl

@[simp] theorem bytes_nil : bytes [] = [] := rfl

@[simp] theorem bytes_append (cs ds : List Char) : bytes (cs ++ ds) = bytes cs ++ bytes ds :=
  List.flatMap_append

theorem bytes_cons (c : Char) (cs : List Char) :
    bytes (c :: cs) = String.utf8EncodeChar c ++ bytes cs := rfl

theorem utf8EncodeChar_of_ascii {c : Char} (h : c.toNat < 0x80) :
    String.utf8EncodeChar c = [UInt8.ofNat c.toNat] := by
  have hle : c.val.toNat ≤ 127 := Nat.le_of_lt_succ h
  rw [String.utf8EncodeChar, if_pos hle]
  rfl

theorem bytes_cons_of_ascii {c : Char} (h : c.toNat < 0x80) (cs : List Char) :
    bytes (c :: cs) = UInt8.ofNat c.toNat :: bytes cs := by
  rw [bytes_cons, utf8EncodeChar_of_ascii h, List.singleton_append]

/-- The other characters have none of the bytes of ASCII. -/
theorem le_of_mem_utf8EncodeChar {c : Char} (h : 0x80 ≤ c.toNat) {b : UInt8}
    (hb : b ∈ String.utf8EncodeChar c) : 0x80 ≤ b.toNat := by
  have hascii : ¬ c.val.toNat ≤ 127 := Nat.not_le.2 h
  have hlt : c.val.toNat < 0x110000 := by rcases c.valid with h | h <;> omega
  have hofNat {v : Nat} (hv : 0x80 ≤ v) (hv' : v < 0x100) : 0x80 ≤ (UInt8.ofNat v).toNat := by
    rwa [UInt8.toNat_ofNat_of_lt' hv']
  rw [String.utf8EncodeChar, if_neg hascii] at hb
  split_ifs at hb
  all_goals
    simp only [List.mem_cons, List.not_mem_nil, or_false] at hb
    rcases hb with rfl | rfl | rfl | rfl <;> exact hofNat (by omega) (by omega)

/-! ## Strings -/

/-- The first stage takes the string up to its closing quote, as these units. -/
def Scans (cs : List Char) (units : List TextUnit) : Prop :=
  ∀ rest, readQuoted (bytes cs ++ 0x22 :: rest) = (⟨units, none⟩, rest)

/-- A byte that stands for itself in a string. -/
def BareByte (b : UInt8) : Prop := ¬ b < 0x20 ∧ b ≠ 0x22 ∧ b ≠ 0x5C

theorem readQuoted_bareByte {b : UInt8} (h : BareByte b) (bs : Bytes) :
    readQuoted (b :: bs) = ((readQuoted bs).1.keep (.byte b), (readQuoted bs).2) := by
  obtain ⟨hlow, hquote, hback⟩ := h
  rw [readQuoted, if_neg hlow]
  · exact hquote
  · exact fun h => absurd h hback
  · exact fun _ _ _ _ _ h => absurd h hback
  · exact fun _ h => absurd h hback
  · exact fun _ _ h => absurd h hback

theorem readQuoted_shortEscape {e b : UInt8} (hu : e ≠ 0x75) (h : shortEscape? e = some b)
    (bs : Bytes) :
    readQuoted (0x5C :: e :: bs) = ((readQuoted bs).1.keep (.byte b), (readQuoted bs).2) := by
  rw [readQuoted, h]
  · exact fun _ _ _ _ _ h => absurd h hu
  · exact hu

theorem readQuoted_code {a b c d : UInt8} {n : Nat} (h : hexCode? a b c d = some n) (bs : Bytes) :
    readQuoted (0x5C :: 0x75 :: a :: b :: c :: d :: bs) =
      ((readQuoted bs).1.keep (.code n), (readQuoted bs).2) := by
  rw [readQuoted, h]

/-- Bytes that stand for themselves are kept as they are. -/
theorem readQuoted_bareBytes {bs rest tail : Bytes} {units : List TextUnit}
    (h : ∀ b ∈ bs, BareByte b) (hrest : readQuoted rest = (⟨units, none⟩, tail)) :
    readQuoted (bs ++ rest) = (⟨bs.map .byte ++ units, none⟩, tail) := by
  induction bs with
  | nil => exact hrest
  | cons b bs ih =>
    rw [List.cons_append, readQuoted_bareByte (h b List.mem_cons_self),
      ih fun b hb => h b (List.mem_cons_of_mem _ hb)]
    rfl

theorem bareByte_of_mem {c : Char} (h : Bare c) {b : UInt8} (hb : b ∈ String.utf8EncodeChar c) :
    BareByte b := by
  obtain ⟨hlow, hquote, hback⟩ := h
  simp only [BareByte, ne_eq, ← UInt8.toNat_inj, UInt8.lt_iff_toNat_lt, UInt8.toNat_ofNat]
  by_cases hascii : c.toNat < 0x80
  · have hne (d : Char) (hd : c ≠ d) : c.toNat ≠ d.toNat := mt Char.toNat_inj.1 hd
    have hquote := hne _ hquote
    have hback := hne _ hback
    rw [utf8EncodeChar_of_ascii hascii, List.mem_singleton] at hb
    rw [hb, UInt8.toNat_ofNat_of_lt' (Nat.lt_trans hascii (by decide))]
    exact ⟨Nat.not_lt.2 hlow, hquote, hback⟩
  · have := le_of_mem_utf8EncodeChar (Nat.not_lt.1 hascii) hb
    omega

/-! ### The pieces of a string -/

section
variable {cs : List Char} {units : List TextUnit} (h : Scans cs units)
include h

theorem Scans.bare {c : Char} (hc : Bare c) :
    Scans (c :: cs) ((String.utf8EncodeChar c).map .byte ++ units) := by
  intro rest
  rw [bytes_cons, List.append_assoc]
  exact readQuoted_bareBytes (fun b hb => bareByte_of_mem hc hb) (h rest)

theorem Scans.short {e c : Char} (he : (e, c) ∈ shortEscapes) :
    Scans ('\\' :: e :: cs) (.byte (UInt8.ofNat c.toNat) :: units) := by
  have hescape : ∀ x ∈ shortEscapes, x.1.toNat < 0x80 ∧ UInt8.ofNat x.1.toNat ≠ 0x75 ∧
      shortEscape? (UInt8.ofNat x.1.toNat) = some (UInt8.ofNat x.2.toNat) := by decide
  obtain ⟨hascii, hu, hshort⟩ := hescape _ he
  intro rest
  rw [bytes_cons_of_ascii (by decide), bytes_cons_of_ascii hascii, List.cons_append,
    List.cons_append]
  refine (readQuoted_shortEscape hu hshort _).trans ?_
  rw [h rest]
  rfl

theorem Scans.code {code : List Char} {n : Nat} (hcode : HexCode code n) :
    Scans ('\\' :: 'u' :: (code ++ cs)) (.code n :: units) := by
  have hdigit : ∀ x ∈ hexDigits, x.1.toNat < 0x80 ∧
      hexValue? (UInt8.ofNat x.1.toNat) = some x.2 := by decide
  cases hcode with | @digits a b c d p q r t ha hb hc hd
  obtain ⟨hasciiA, hvalueA⟩ := hdigit _ ha
  obtain ⟨hasciiB, hvalueB⟩ := hdigit _ hb
  obtain ⟨hasciiC, hvalueC⟩ := hdigit _ hc
  obtain ⟨hasciiD, hvalueD⟩ := hdigit _ hd
  have hvalue : hexCode? (UInt8.ofNat a.toNat) (UInt8.ofNat b.toNat) (UInt8.ofNat c.toNat)
      (UInt8.ofNat d.toNat) = some (((p * 16 + q) * 16 + r) * 16 + t) := by
    simp only [hexCode?, hvalueA, hvalueB, hvalueC, hvalueD]
    rfl
  intro rest
  have hbytes : bytes ('\\' :: 'u' :: ([a, b, c, d] ++ cs)) ++ 0x22 :: rest =
      0x5C :: 0x75 :: UInt8.ofNat a.toNat :: UInt8.ofNat b.toNat :: UInt8.ofNat c.toNat ::
        UInt8.ofNat d.toNat :: (bytes cs ++ 0x22 :: rest) := by
    simp only [List.cons_append, List.nil_append, bytes_cons, utf8EncodeChar_of_ascii hasciiA,
      utf8EncodeChar_of_ascii hasciiB, utf8EncodeChar_of_ascii hasciiC,
      utf8EncodeChar_of_ascii hasciiD]
    rfl
  rw [hbytes, readQuoted_code hvalue, h rest]
  rfl

end

theorem scans_nil : Scans [] [] := fun _ => rfl

/-- Whatever may stand between quotes is taken up to the closing one. -/
theorem StringBody.exists_scans {cs : List Char} (h : StringBody cs) : ∃ units, Scans cs units := by
  induction h with
  | nil => exact ⟨_, scans_nil⟩
  | bare hc _ ih => exact ⟨_, ih.choose_spec.bare hc⟩
  | short he _ ih => exact ⟨_, ih.choose_spec.short he⟩
  | code hcode _ ih => exact ⟨_, ih.choose_spec.code hcode⟩

/-! ### The text of a string -/

theorem bytesOf_bytes {units : List TextUnit} {t : Bytes} (h : bytesOf none units = .ok t)
    (bs : Bytes) : bytesOf none (bs.map .byte ++ units) = .ok (bs ++ t) := by
  induction bs with
  | nil => exact h
  | cons b bs ih =>
    rw [List.map_cons, List.cons_append, bytesOf, ih]
    rfl

theorem bytesOf_code {units : List TextUnit} {t : Bytes} (h : bytesOf none units = .ok t)
    {n : Nat} (hlead : isLead n = false) (htrail : isTrail n = false) :
    bytesOf none (.code n :: units) = .ok (encodeCode n ++ t) := by
  cases units with
  | nil =>
    cases h
    rw [bytesOf, htrail, hlead, List.append_nil]
    rfl
  | cons u units =>
    cases u with
    | byte b =>
      rw [bytesOf, htrail, hlead, h]
      rfl
    | code m =>
      rw [bytesOf, htrail, hlead, h]
      rfl

theorem bytesOf_pair {units : List TextUnit} {t : Bytes} (h : bytesOf none units = .ok t)
    {m n : Nat} (hlead : isLead m = true) (hnot : isTrail m = false) (htrail : isTrail n = true) :
    bytesOf none (.code m :: .code n :: units) = .ok (encodeCode (joinPair m n) ++ t) := by
  rw [bytesOf, hnot, hlead, htrail, h]
  rfl

/-- A character is no surrogate. -/
theorem not_surrogate (c : Char) : isLead c.toNat = false ∧ isTrail c.toNat = false := by
  have hvalid : c.toNat < 0xD800 ∨ 0xDFFF < c.toNat ∧ c.toNat < 0x110000 := c.valid
  simp only [isLead, isTrail, Bool.and_eq_false_iff, decide_eq_false_iff_not]
  omega

theorem pair_of_ranges {m n : Nat} (hlead : 0xD800 ≤ m ∧ m ≤ 0xDBFF)
    (htrail : 0xDC00 ≤ n ∧ n ≤ 0xDFFF) :
    isLead m = true ∧ isTrail m = false ∧ isTrail n = true := by
  simp only [isLead, isTrail, Bool.and_eq_true, Bool.and_eq_false_iff, decide_eq_true_eq,
    decide_eq_false_iff_not]
  omega

theorem text_of_bytesOf {units : List TextUnit} {s : List Char}
    (h : bytesOf none units = .ok (bytes s)) :
    (⟨units, none⟩ : Quoted).text = .ok (String.ofList s) := by
  have htext := Text.ofUtf8?_utf8 (String.ofList s)
  rw [utf8_eq_bytes, String.toList_ofList] at htext
  simp only [Quoted.text, h, htext, bind, Except.bind, pure, Except.pure]

/-- **A string that is spelled is read as the text that it spells.** -/
theorem Spells.exists_scans {s cs : List Char} (h : Spells s cs) :
    ∃ units, Scans cs units ∧ (⟨units, none⟩ : Quoted).text = .ok (String.ofList s) := by
  suffices hbytes : ∃ units, Scans cs units ∧ bytesOf none units = .ok (bytes s) by
    obtain ⟨units, hscans, hunits⟩ := hbytes
    exact ⟨units, hscans, text_of_bytesOf hunits⟩
  induction h with
  | nil => exact ⟨_, scans_nil, rfl⟩
  | @bare c s cs hc _ ih =>
    obtain ⟨units, hscans, hunits⟩ := ih
    exact ⟨_, hscans.bare hc, bytesOf_bytes hunits _⟩
  | @short e c s cs he _ ih =>
    obtain ⟨units, hscans, hunits⟩ := ih
    have hascii : ∀ x ∈ shortEscapes, x.2.toNat < 0x80 := by decide
    refine ⟨_, hscans.short he, ?_⟩
    rw [bytes_cons_of_ascii (hascii _ he)]
    exact bytesOf_bytes hunits [_]
  | @code c s code cs hcode _ ih =>
    obtain ⟨units, hscans, hunits⟩ := ih
    obtain ⟨hlead, htrail⟩ := not_surrogate c
    refine ⟨_, hscans.code hcode, ?_⟩
    rw [bytesOf_code hunits hlead htrail, encodeCode, Char.ofNat_toNat, bytes_cons]
  | @pair c s lead trail m n cs hm hn hlead htrail hc _ ih =>
    obtain ⟨units, hscans, hunits⟩ := ih
    refine ⟨_, (hscans.code hn).code hm, ?_⟩
    obtain ⟨hisLead, hnot, hisTrail⟩ := pair_of_ranges hlead htrail
    have hjoin : joinPair m n = c.toNat := hc.symm
    rw [bytesOf_pair hunits hisLead hnot hisTrail, encodeCode, hjoin, Char.ofNat_toNat, bytes_cons]

/-! ## Numbers -/

/-- What may follow a value: a blank, a comma, a closing bracket, or nothing. -/
def Ends (rest : Bytes) : Prop :=
  ∀ b ∈ rest.head?, b ∈ ([0x20, 0x0A, 0x09, 0x0D, 0x2C, 0x5D, 0x7D] : Bytes)

theorem ends_nil : Ends [] := nofun

theorem ends_cons {b : UInt8} (h : b ∈ ([0x20, 0x0A, 0x09, 0x0D, 0x2C, 0x5D, 0x7D] : Bytes))
    (rest : Bytes) : Ends (b :: rest) := by
  rintro _ ⟨⟩
  exact h

/-- The number does not go on here. -/
structure NumberEnds (rest : Bytes) : Prop where
  digit : ∀ b ∈ rest.head?, isDigit b = false
  point : ∀ b ∈ rest.head?, b ≠ 0x2E
  exponent : ∀ b ∈ rest.head?, b ≠ 0x65 ∧ b ≠ 0x45

theorem Ends.numberEnds {rest : Bytes} (h : Ends rest) : NumberEnds rest := by
  have hends : ∀ b ∈ ([0x20, 0x0A, 0x09, 0x0D, 0x2C, 0x5D, 0x7D] : Bytes),
      isDigit b = false ∧ b ≠ 0x2E ∧ b ≠ 0x65 ∧ b ≠ 0x45 := by decide
  exact ⟨fun b hb => (hends b (h b hb)).1, fun b hb => (hends b (h b hb)).2.1,
    fun b hb => (hends b (h b hb)).2.2⟩

theorem bytes_digitChar {d : Nat} (h : d < 10) :
    String.utf8EncodeChar (Nat.digitChar d) = [UInt8.ofNat (0x30 + d)] := by
  have hall : ∀ d < 10, String.utf8EncodeChar (Nat.digitChar d) = [UInt8.ofNat (0x30 + d)] := by
    decide
  exact hall d h

theorem isDigit_ofNat {d : Nat} (h : d < 10) :
    isDigit (UInt8.ofNat (0x30 + d)) = true ∧ (UInt8.ofNat (0x30 + d)).toNat - 0x30 = d := by
  have hall : ∀ d < 10, isDigit (UInt8.ofNat (0x30 + d)) = true ∧
      (UInt8.ofNat (0x30 + d)).toNat - 0x30 = d := by decide
  exact hall d h

/-- Digits are taken up to where they stop. -/
theorem takeDigits_digitChars {ds : List Nat} (h : ∀ d ∈ ds, d < 10) {rest : Bytes}
    (hrest : ∀ b ∈ rest.head?, isDigit b = false) :
    takeDigits (bytes (digitChars ds) ++ rest) = (ds, rest) := by
  induction ds with
  | nil =>
    cases rest with
    | nil => rfl
    | cons b rest =>
      have hb : ¬ isDigit b = true := Bool.eq_false_iff.1 (hrest b rfl)
      simp only [takeDigits, digitChars, List.map_nil, bytes_nil, List.nil_append,
        List.takeWhile_cons_of_neg hb, List.dropWhile_cons_of_neg hb]
  | cons d ds ih =>
    have hd := h d List.mem_cons_self
    obtain ⟨hdigit, hvalue⟩ := isDigit_ofNat hd
    have ih := ih fun d hd => h d (List.mem_cons_of_mem _ hd)
    rw [takeDigits, Prod.mk.injEq, digitChars] at ih
    rw [takeDigits, digitChars, List.map_cons, bytes_cons, bytes_digitChar hd,
      List.singleton_append, List.cons_append, List.takeWhile_cons_of_pos hdigit,
      List.dropWhile_cons_of_pos hdigit, List.map_cons, hvalue, ih.1, ih.2]

theorem readTail_of_ends (n : NumberText) {rest : Bytes} (h : NumberEnds rest) :
    readTail n rest = (n, rest) := by
  cases rest with
  | nil => rfl
  | cons b rest =>
    obtain ⟨hsmall, hcapital⟩ := h.exponent b rfl
    rw [readTail]
    · rintro _ ⟨⟩
      exact hsmall rfl
    · rintro _ ⟨⟩
      exact hcapital rfl

/-! ### The parts of a number -/

section
variable {ds : List Nat} {rest : Bytes} (hds : IsDigits ds) (h : NumberEnds rest)
include hds h

theorem readExponent_minus (n : NumberText) :
    readExponent n (0x2D :: (bytes (digitChars ds) ++ rest)) =
      ({ n with exponent := some (true, ds) }, rest) := by
  obtain ⟨d, ds, rfl⟩ := List.exists_cons_of_ne_nil hds.ne_nil
  simp only [readExponent, takeDigits_digitChars hds.lt_ten h.digit]

theorem readExponent_plus (n : NumberText) :
    readExponent n (0x2B :: (bytes (digitChars ds) ++ rest)) =
      ({ n with exponent := some (false, ds) }, rest) := by
  obtain ⟨d, ds, rfl⟩ := List.exists_cons_of_ne_nil hds.ne_nil
  simp only [readExponent, takeDigits_digitChars hds.lt_ten h.digit]

theorem readExponent_plain (n : NumberText) :
    readExponent n (bytes (digitChars ds) ++ rest) =
      ({ n with exponent := some (false, ds) }, rest) := by
  have htake := takeDigits_digitChars hds.lt_ten h.digit
  obtain ⟨d, ds, rfl⟩ := List.exists_cons_of_ne_nil hds.ne_nil
  have hsign : ∀ d < 10, UInt8.ofNat (0x30 + d) ≠ 0x2D ∧ UInt8.ofNat (0x30 + d) ≠ 0x2B := by
    decide
  obtain ⟨hminus, hplus⟩ := hsign d (hds.lt_ten d List.mem_cons_self)
  obtain ⟨tail, htail⟩ : ∃ tail, bytes (digitChars (d :: ds)) ++ rest =
      UInt8.ofNat (0x30 + d) :: tail := by
    rw [digitChars, List.map_cons, bytes_cons, bytes_digitChar (hds.lt_ten d List.mem_cons_self)]
    exact ⟨_, rfl⟩
  rw [htail] at htake ⊢
  unfold readExponent
  split
  rename_i heq
  split at heq
  · next h => exact absurd (List.cons.inj h).1 hminus
  · next h => exact absurd (List.cons.inj h).1 hplus
  · obtain ⟨rfl, rfl⟩ := Prod.mk.inj heq
    rw [htake]

end

section
variable {rest : Bytes} (h : NumberEnds rest)
include h

/-- The exponent is read if there is one. -/
theorem readTail_exponent {exponent : Option (Bool × List Nat)} {es : List Char}
    (hes : IsExponent exponent es) (n : NumberText) (hn : n.exponent = none) :
    readTail n (bytes es ++ rest) = ({ n with exponent := exponent }, rest) := by
  have hletter (e : Char) (he : e ∈ ['e', 'E']) (cs : Bytes) :
      readTail n (String.utf8EncodeChar e ++ cs) = readExponent n cs := by
    simp only [List.mem_cons, List.not_mem_nil, or_false] at he
    rcases he with rfl | rfl <;> rfl
  cases hes with
  | absent =>
    rw [bytes_nil, List.nil_append, readTail_of_ends n h, ← hn]
  | plain he hds =>
    rw [bytes_cons, List.append_assoc, hletter _ he, readExponent_plain hds h]
  | plus he hds =>
    rw [bytes_cons, List.append_assoc, hletter _ he]
    exact readExponent_plus hds h n
  | minus he hds =>
    rw [bytes_cons, List.append_assoc, hletter _ he]
    exact readExponent_minus hds h n

/-- Neither a digit nor a point stands in front of an exponent. -/
theorem exponent_head {exponent : Option (Bool × List Nat)} {es : List Char}
    (hes : IsExponent exponent es) :
    ∀ b ∈ (bytes es ++ rest).head?, isDigit b = false ∧ b ≠ 0x2E := by
  have hletter (e : Char) (he : e ∈ ['e', 'E']) (cs : List Char) :
      ∀ b ∈ (bytes (e :: cs) ++ rest).head?, isDigit b = false ∧ b ≠ 0x2E := by
    simp only [List.mem_cons, List.not_mem_nil, or_false] at he
    rcases he with rfl | rfl
    all_goals
      rintro _ ⟨⟩
      decide
  cases hes with
  | absent => exact fun b hb => ⟨h.digit b hb, h.point b hb⟩
  | plain he _ => exact hletter _ he _
  | plus he _ => exact hletter _ he _
  | minus he _ => exact hletter _ he _

/-- The fraction and the exponent are read if they are there. -/
theorem readFraction_fraction {pointed : Bool} {fraction : List Nat} {fs : List Char}
    (hfs : IsFraction pointed fraction fs) {exponent : Option (Bool × List Nat)} {es : List Char}
    (hes : IsExponent exponent es) (n : NumberText) (hpointed : n.pointed = false)
    (hfraction : n.fraction = []) (hexponent : n.exponent = none) :
    readFraction n (bytes fs ++ (bytes es ++ rest)) =
      ({ n with pointed := pointed, fraction := fraction, exponent := exponent }, rest) := by
  have hhead := exponent_head h hes
  have htail := readTail_exponent h hes
  generalize bytes es ++ rest = tail at hhead htail
  cases hfs with
  | absent =>
    have hread : readFraction n tail = readTail n tail := by
      cases tail with
      | nil => rfl
      | cons b tail =>
        rw [readFraction]
        rintro _ ⟨⟩
        exact (hhead _ rfl).2 rfl
    rw [bytes_nil, List.nil_append, hread, htail n hexponent, ← hpointed, ← hfraction]
  | present hds =>
    obtain ⟨d, ds, rfl⟩ := List.exists_cons_of_ne_nil hds.ne_nil
    have htake := takeDigits_digitChars hds.lt_ten fun b hb => (hhead b hb).1
    have hread : readFraction n (0x2E :: (bytes (digitChars (d :: ds)) ++ tail)) =
        readTail { n with fraction := d :: ds, pointed := true } tail := by
      simp only [readFraction, htake]
    exact hread.trans (htail { n with fraction := d :: ds, pointed := true } hexponent)

/-- No digit stands in front of a fraction. -/
theorem fraction_head {pointed : Bool} {fraction : List Nat} {fs : List Char}
    (hfs : IsFraction pointed fraction fs) {exponent : Option (Bool × List Nat)} {es : List Char}
    (hes : IsExponent exponent es) :
    ∀ b ∈ (bytes fs ++ (bytes es ++ rest)).head?, isDigit b = false := by
  cases hfs with
  | absent => exact fun b hb => (exponent_head h hes b hb).1
  | present _ =>
    rintro _ ⟨⟩
    decide

/-- All parts of a number are read. -/
theorem readWhole_parts {whole : List Nat} (hwhole : IsWhole whole) {pointed : Bool}
    {fraction : List Nat} {fs : List Char} (hfs : IsFraction pointed fraction fs)
    {exponent : Option (Bool × List Nat)} {es : List Char} (hes : IsExponent exponent es)
    (negative : Bool) :
    readWhole negative (bytes (digitChars whole ++ (fs ++ es)) ++ rest) =
      (⟨negative, whole, fraction, pointed, exponent, none⟩, rest) := by
  have hdigits : ∀ d ∈ whole, d < 10 := by
    cases hwhole with
    | zero => decide
    | nonzero _ hds => exact hds.lt_ten
  have htake := takeDigits_digitChars hdigits (fraction_head h hfs hes)
  rw [bytes_append, bytes_append, List.append_assoc, List.append_assoc]
  unfold readWhole
  cases hwhole with
  | zero =>
    rw [htake]
    exact readFraction_fraction h hfs hes _ rfl rfl rfl
  | @nonzero d ds hd _ =>
    obtain ⟨d, rfl⟩ := Nat.exists_eq_succ_of_ne_zero hd
    rw [htake]
    exact readFraction_fraction h hfs hes _ rfl rfl rfl

end

/-! ## Tokens -/

theorem tokens_cons {b : UInt8} {bs rest : Bytes} {t : Token} (hblank : isBlank b = false)
    (hread : readToken b bs = (t, rest)) (ht : t.isBroken = false) :
    tokens (b :: bs) = t :: tokens rest := by
  rw [tokens]
  simp [hblank, hread, ht]

/-- Blanks are dropped. -/
theorem tokens_blanks {cs : List Char} (h : Blanks cs) (rest : Bytes) :
    tokens (bytes cs ++ rest) = tokens rest := by
  have hblank : ∀ c ∈ [' ', '\n', '\t', '\r'], c.toNat < 0x80 ∧
      isBlank (UInt8.ofNat c.toNat) = true := by decide
  induction cs with
  | nil => rfl
  | cons c cs ih =>
    obtain ⟨hascii, hc⟩ := hblank c (h c List.mem_cons_self)
    rw [bytes_cons_of_ascii hascii, List.cons_append, tokens_cons_of_isBlank hc,
      ih fun c hc => h c (List.mem_cons_of_mem _ hc)]

/-- Blanks and what follows them may follow a value. -/
theorem ends_blanks {cs : List Char} (h : Blanks cs) {rest : Bytes} (hrest : Ends rest) :
    Ends (bytes cs ++ rest) := by
  have hblank : ∀ c ∈ [' ', '\n', '\t', '\r'], c.toNat < 0x80 ∧
      UInt8.ofNat c.toNat ∈ ([0x20, 0x0A, 0x09, 0x0D, 0x2C, 0x5D, 0x7D] : Bytes) := by decide
  cases cs with
  | nil => exact hrest
  | cons c cs =>
    obtain ⟨hascii, hc⟩ := hblank c (h c List.mem_cons_self)
    rw [bytes_cons_of_ascii hascii]
    exact ends_cons hc _

/-- The punctuation, by its bytes. -/
theorem tokens_punctuation {b : UInt8} {t : Token}
    (h : (b, t) ∈ [((0x7B : UInt8), Token.openBrace), (0x7D, .closeBrace), (0x5B, .openBracket),
      (0x5D, .closeBracket), (0x3A, .colon), (0x2C, .comma)]) (rest : Bytes) :
    tokens (b :: rest) = t :: tokens rest := by
  simp only [List.mem_cons, List.not_mem_nil, or_false, Prod.mk.injEq] at h
  rcases h with ⟨rfl, rfl⟩ | ⟨rfl, rfl⟩ | ⟨rfl, rfl⟩ | ⟨rfl, rfl⟩ | ⟨rfl, rfl⟩ | ⟨rfl, rfl⟩
  all_goals exact tokens_cons rfl rfl rfl

/-- A string is the token of its units. -/
theorem tokens_string {cs : List Char} {units : List TextUnit} (h : Scans cs units)
    (rest : Bytes) :
    tokens (bytes (inQuotes cs) ++ rest) = .text ⟨units, none⟩ :: tokens rest := by
  have hbytes : bytes (inQuotes cs) ++ rest = 0x22 :: (bytes cs ++ 0x22 :: rest) := by
    rw [inQuotes, bytes_cons, bytes_append, List.append_assoc, List.append_assoc]
    rfl
  rw [hbytes]
  refine tokens_cons rfl ?_ rfl
  simp only [readToken, h rest]

theorem tokens_null (rest : Bytes) : tokens (bytes "null".toList ++ rest) = .null :: tokens rest :=
  tokens_cons rfl rfl rfl

theorem tokens_bool (b : Bool) (rest : Bytes) :
    tokens (bytes (if b then "true" else "false").toList ++ rest) = .bool b :: tokens rest := by
  cases b with
  | false => exact tokens_cons rfl rfl rfl
  | true => exact tokens_cons rfl rfl rfl

theorem readToken_of_isDigit {b : UInt8} (h : isDigit b = true) (bs : Bytes) :
    readToken b bs = (.number (readWhole false (b :: bs)).1, (readWhole false (b :: bs)).2) := by
  unfold readToken
  split
  case h_11 =>
    rw [if_neg, if_pos h]
    rintro rfl
    exact absurd h (by decide)
  all_goals exact absurd h (by decide)

theorem isBlank_of_isDigit {b : UInt8} (h : isDigit b = true) : isBlank b = false := by
  have hblank : ∀ b ∈ ([0x20, 0x0A, 0x09, 0x0D] : Bytes), isDigit b = false := by decide
  rw [Bool.eq_false_iff]
  intro hb
  simp only [isBlank, Bool.or_eq_true, beq_iff_eq, or_assoc] at hb
  rw [hblank b (by simpa using hb)] at h
  cases h

/-- A number without a sign begins with a digit. -/
theorem exists_digit_front {whole : List Nat} (h : IsWhole whole) (cs : List Char) :
    ∃ b bs, bytes (digitChars whole ++ cs) = b :: bs ∧ isDigit b = true := by
  obtain ⟨d, ds, rfl, hd⟩ : ∃ d ds, whole = d :: ds ∧ d < 10 := by
    cases h with
    | zero => exact ⟨0, [], rfl, by decide⟩
    | nonzero _ hds => exact ⟨_, _, rfl, hds.lt_ten _ List.mem_cons_self⟩
  refine ⟨UInt8.ofNat (0x30 + d), bytes (digitChars ds ++ cs), ?_, (isDigit_ofNat hd).1⟩
  rw [digitChars, List.map_cons, List.cons_append, bytes_cons, bytes_digitChar hd]
  rfl

/-- A number is the token of its parts if it does not go on. -/
theorem tokens_number {n : NumberText} {cs : List Char} (h : SpelledNumber n cs) {rest : Bytes}
    (hrest : Ends rest) : tokens (bytes cs ++ rest) = .number n :: tokens rest := by
  cases h with
  | @parts negative whole pointed fraction fs exponent es hwhole hfs hes =>
    have hread := readWhole_parts hrest.numberEnds hwhole hfs hes negative
    cases negative with
    | true =>
      have hminus (bs : Bytes) :
          readToken 0x2D bs = (.number (readWhole true bs).1, (readWhole true bs).2) := rfl
      rw [if_pos rfl, List.singleton_append, bytes_cons_of_ascii (by decide), List.cons_append]
      refine tokens_cons rfl ?_ rfl
      exact (hminus _).trans (by rw [hread])
    | false =>
      rw [if_neg nofun, List.nil_append]
      obtain ⟨b, bs, hbytes, hb⟩ := exists_digit_front hwhole (fs ++ es)
      rw [hbytes, List.cons_append] at hread ⊢
      refine tokens_cons (isBlank_of_isDigit hb) ?_ rfl
      rw [readToken_of_isDigit hb, hread]

end PolicyBench.Json
