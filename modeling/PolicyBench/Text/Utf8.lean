/-
  PolicyBench — text as bytes.

  Files hold bytes, the program works on text; the encoding between them is
  UTF-8.

  * `utf8` writes text as bytes, `ofUtf8?` reads it back and refuses bytes that
    are no text;
  * `ofUtf8?_utf8` and `utf8_of_ofUtf8?`: the two are inverse to each other, so
    a text has exactly one encoding;
  * `validLength` says how many leading bytes are whole characters, which is
    where an error message points to.
-/

namespace PolicyBench.Text

/-- The content of a file. -/
abbrev Bytes := List UInt8

/-! ## Writing and reading -/

/-- The UTF-8 encoding of `s`. -/
def utf8 (s : String) : Bytes :=
  s.toList.flatMap String.utf8EncodeChar

/-- The text that `b` encodes, if it is well-formed UTF-8. -/
def ofUtf8? (b : Bytes) : Option String :=
  String.fromUTF8? b.toByteArray

theorem toByteArray_utf8 (s : String) : (utf8 s).toByteArray = s.toByteArray := by
  rw [← String.utf8Encode_toList]; rfl

theorem ofUtf8?_utf8 (s : String) : ofUtf8? (utf8 s) = some s := by
  simp [ofUtf8?, String.fromUTF8?, toByteArray_utf8, String.isValidUTF8, String.fromUTF8]

theorem utf8_of_ofUtf8? {b : Bytes} {s : String} (h : ofUtf8? b = some s) : utf8 s = b := by
  simp only [ofUtf8?, String.fromUTF8?] at h
  split at h
  · have hs : s.toByteArray = b.toByteArray := by cases h; rfl
    have := congrArg (fun a => a.data.toList) ((toByteArray_utf8 s).trans hs)
    simpa using this
  · cases h

/-- Decoding accepts exactly what encoding produces. -/
theorem ofUtf8?_eq_some_iff {b : Bytes} {s : String} : ofUtf8? b = some s ↔ b = utf8 s :=
  ⟨fun h => (utf8_of_ofUtf8? h).symm, fun h => h ▸ ofUtf8?_utf8 s⟩

theorem utf8_append (s t : String) : utf8 (s ++ t) = utf8 s ++ utf8 t := by
  simp [utf8]

/-! ## Where well-formed text ends -/

/-- The end of the last whole character at or after byte `i`. -/
def validLength.go (b : ByteArray) (i : Nat) : Nat :=
  match h : b.utf8DecodeChar? i with
  | some c =>
    have := ByteArray.le_size_of_utf8DecodeChar?_eq_some h
    go b (i + c.utf8Size)
  | none => i
termination_by b.size - i
decreasing_by
  have := c.utf8Size_pos
  omega

/-- The number of leading bytes that form whole characters. -/
def validLength (b : Bytes) : Nat :=
  validLength.go b.toByteArray 0

end PolicyBench.Text
