/-
  PolicyBench — what is written is JSON.

  The texts that are written for strings, numbers, truth values and lists belong to the
  grammar, whatever characters the strings have.

  * `spells_quotedChar`: a string with its escapes spells the text;
  * `isText_quoted`, `isTexts_intercalate`, `isNatural_repr`: the values;
  * `Member.plain`: a member without blanks.
-/
import PolicyBench.Proofs.Json.Grammar

namespace PolicyBench.Json

-- What holds of all elements of a list is decided on the list, also where its type is finite.
attribute [local instance (high)] List.decidableBAll

/-! ## Strings -/

theorem digitChar_mem_hexDigits {n : Nat} (h : n < 16) : (Nat.digitChar n, n) ∈ hexDigits := by
  have hall : ∀ n < 16, (Nat.digitChar n, n) ∈ hexDigits := by decide
  exact hall n h

/-- A control character by its four digits. -/
theorem hexCode_control {c : Char} (h : c.toNat < 0x20) :
    HexCode ['0', '0', Nat.digitChar (c.toNat / 16), Nat.digitChar (c.toNat % 16)] c.toNat := by
  have hzero : ('0', 0) ∈ hexDigits := by decide
  have hcode := HexCode.digits hzero hzero
    (digitChar_mem_hexDigits (by omega : c.toNat / 16 < 16))
    (digitChar_mem_hexDigits (by omega : c.toNat % 16 < 16))
  have hvalue : ((0 * 16 + 0) * 16 + c.toNat / 16) * 16 + c.toNat % 16 = c.toNat := by omega
  rwa [hvalue] at hcode

theorem Spells.quotedChar {s cs : List Char} (h : Spells s cs) (c : Char) :
    Spells (c :: s) (quotedChar c ++ cs) := by
  unfold Json.quotedChar
  split
  case h_8 =>
    next hquote hback _ _ _ _ _ =>
    split
    · next hcontrol => exact .code (hexCode_control hcontrol) h
    · next hcontrol => exact .bare ⟨Nat.not_lt.1 hcontrol, hquote, hback⟩ h
  all_goals exact .short (by decide) h

/-- **A string with its escapes spells the text**, whatever its characters. -/
theorem spells_quotedChar (s : List Char) : Spells s (s.flatMap Json.quotedChar) := by
  induction s with
  | nil => exact .nil
  | cons c s ih => exact ih.quotedChar c

theorem toList_quoted (s : String) :
    (quoted s).toList = inQuotes (s.toList.flatMap Json.quotedChar) := by
  rw [quoted, String.toList_ofList]
  rfl

theorem isText_quoted (s : String) : IsText s (quoted s).toList :=
  toList_quoted s ▸ .quoted (spells_quotedChar s.toList)

/-! ## Lists -/

/-- A value without blanks. -/
def Item.plain (value : List Char) : Item := ⟨[], value, []⟩

theorem Item.plain_padded (value : List Char) : (Item.plain value).Padded :=
  ⟨nofun, nofun⟩

theorem Item.value_plain (value : List Char) : (Item.plain value).value = value := rfl

theorem Item.text_plain (value : List Char) : (Item.plain value).text = value :=
  List.append_nil value

/-- Parts with commas between them in brackets. -/
theorem inBrackets_intercalate (opening closing : Char) (parts : List (List Char)) :
    InBrackets opening closing parts (opening :: ([','].intercalate parts ++ [closing])) := by
  cases parts with
  | nil => exact @InBrackets.empty opening closing [] nofun
  | cons part parts => exact .parts

theorem isTexts_intercalate (ss : List String) :
    IsTexts ss ("[" ++ ",".intercalate (ss.map quoted) ++ "]").toList := by
  have hitems : (ss.map fun s => Item.plain (quoted s).toList).map Item.text =
      (ss.map quoted).map String.toList := by
    simp only [List.map_map, Function.comp_def, Item.text_plain]
  have hbrackets := inBrackets_intercalate '[' ']' ((ss.map quoted).map String.toList)
  refine @IsTexts.array _ (ss.map fun s => .plain (quoted s).toList) _ ⟨?_, ?_⟩ ?_
  · simp only [List.forall_mem_map]
    exact fun s _ => Item.plain_padded _
  · rw [hitems, String.toList_append, String.toList_append, String.toList_intercalate]
    exact hbrackets
  · simp only [List.forall₂_map_right_iff, List.forall₂_same, Item.value_plain]
    exact fun s _ => isText_quoted s

/-! ## Numbers -/

theorem isNatural_repr (k : UInt64) : IsNatural k (Nat.repr k.toNat).toList := by
  rw [Nat.toList_repr]
  exact .digits

/-! ## Members -/

/-- A member without blanks. -/
def Member.plain (name : String) (value : List Char) : Member :=
  ⟨[], name.toList.flatMap Json.quotedChar, [], .plain value⟩

theorem Member.plain_padded (name : String) (value : List Char) :
    (Member.plain name value).Padded :=
  ⟨nofun, nofun, Item.plain_padded value⟩

theorem Member.text_plain (name : String) (value : List Char) :
    (Member.plain name value).text = (quoted name).toList ++ ':' :: value := by
  rw [toList_quoted, Member.text, plain, Item.text_plain]
  rfl

end PolicyBench.Json
