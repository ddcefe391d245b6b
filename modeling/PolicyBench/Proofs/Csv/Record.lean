/-
  PolicyBench — written records read back.

  Whatever bytes its fields hold, a record that was written is read as the same
  fields, and reading goes on behind it.

  * `scan_encodeField`: a written field is read up to the comma or line feed
    behind it, in quotes or not;
  * `scan_encodeRecord`: the same for a whole record;
  * `fields_recordsFrom_flatMap`: the records of a file that consists of written
    records are these, and a file begins with none of the bytes that are skipped.
-/
import PolicyBench.Csv.Record

namespace PolicyBench.Csv

open Text (Bytes)

/-! ## Fields -/

/-- With more bytes in front of the field. -/
def Scanned.prepend (field : Bytes) (s : Scanned) : Scanned := { s with field := field ++ s.field }

theorem Scanned.prepend_nil (s : Scanned) : s.prepend [] = s := rfl

theorem Scanned.keep_prepend (b : UInt8) (field : Bytes) (s : Scanned) :
    (s.prepend field).keep b = s.prepend (b :: field) := rfl

/-- What stands behind a written field: a comma, or the end of the record. -/
def EndsField (tail : Bytes) : Prop := ∃ b bs, tail = b :: bs ∧ (b = comma ∨ b = lineFeed)

theorem endsField_comma (bs : Bytes) : EndsField (comma :: bs) := ⟨comma, bs, rfl, .inl rfl⟩

theorem endsField_lineFeed (bs : Bytes) : EndsField (lineFeed :: bs) :=
  ⟨lineFeed, bs, rfl, .inr rfl⟩

theorem scan_comma {place : Place} (hp : place ≠ .quoted) (bs : Bytes) :
    scan place (comma :: bs) = (scan .start bs).split := by
  have hq : comma ≠ quote := by decide
  simp [scan, hp, hq]

theorem scan_lineFeed {place : Place} (hp : place ≠ .quoted) (bs : Bytes) :
    scan place (lineFeed :: bs) = ⟨[], [], bs⟩ := by
  have hq : lineFeed ≠ quote := by decide
  have hc : lineFeed ≠ comma := by decide
  have he : endsRecord lineFeed = true := by decide
  simp [scan, hp, hq, hc, he]

/-- At the end of a field it does not matter how the field began. -/
theorem scan_of_endsField {tail : Bytes} (h : EndsField tail) {place : Place}
    (hp : place ≠ .quoted) : scan place tail = scan .start tail := by
  obtain ⟨b, bs, rfl, rfl | rfl⟩ := h
  · rw [scan_comma hp, scan_comma (by decide)]
  · rw [scan_lineFeed hp, scan_lineFeed (by decide)]

theorem needsQuotes_cons {b : UInt8} {field : Bytes} :
    needsQuotes (b :: field) = false ↔
      (b ≠ comma ∧ b ≠ quote ∧ endsRecord b = false) ∧ needsQuotes field = false := by
  simp [needsQuotes, and_assoc]

/-- A field without special bytes is read as it stands. -/
theorem scan_bare {field : Bytes} (hf : needsQuotes field = false) {tail : Bytes}
    (ht : EndsField tail) {place : Place} (hp : place ≠ .quoted) :
    scan place (field ++ tail) = (scan .start tail).prepend field := by
  induction field generalizing place with
  | nil => exact scan_of_endsField ht hp
  | cons b field ih =>
    obtain ⟨⟨hcomma, hquote, hend⟩, hrest⟩ := needsQuotes_cons.1 hf
    rw [List.cons_append, scan]
    simp only [hp, hquote, hcomma, hend, false_and, if_false, Bool.false_eq_true]
    rw [ih hrest (by decide), Scanned.keep_prepend]

/-- Between quotes every byte is read as it stands, and two quotes as one. -/
theorem scan_quoted (field : Bytes) {tail : Bytes} (ht : EndsField tail) :
    scan .quoted (field.flatMap (fun b => if b = quote then [quote, quote] else [b]) ++
      quote :: tail) = (scan .start tail).prepend field := by
  induction field with
  | nil =>
    simp only [List.flatMap_nil, List.nil_append]
    rw [scan, if_pos rfl, if_pos rfl, scan_of_endsField ht (by decide), Scanned.prepend_nil]
  | cons b field ih =>
    rw [List.flatMap_cons, List.append_assoc]
    by_cases hb : b = quote
    · subst hb
      have hclosing (bs : Bytes) : scan .closing (quote :: bs) = (scan .quoted bs).keep quote := by
        simp [scan]
      rw [if_pos rfl]
      simp only [List.cons_append, List.nil_append]
      rw [scan, if_pos rfl, if_pos rfl, hclosing, ih, Scanned.keep_prepend]
    · rw [if_neg hb]
      simp only [List.cons_append, List.nil_append]
      rw [scan, if_pos rfl, if_neg hb, ih, Scanned.keep_prepend]

/-- A written field is read up to what stands behind it. -/
theorem scan_encodeField (field : Bytes) {tail : Bytes} (ht : EndsField tail) :
    scan .start (encodeField field ++ tail) = (scan .start tail).prepend field := by
  unfold encodeField
  split
  · have hopen (bs : Bytes) : scan .start (quote :: bs) = scan .quoted bs := by simp [scan]
    rw [quoteField, List.cons_append, List.cons_append, hopen, List.append_assoc,
      List.singleton_append, scan_quoted field ht]
  · next hf => exact scan_bare (by simpa using hf) ht (by decide)

/-! ## Records -/

theorem scan_fields (field : Bytes) (later : List Bytes) (rest : Bytes) :
    scan .start ([comma].intercalate ((field :: later).map encodeField) ++ lineFeed :: rest) =
      ⟨field, later, rest⟩ := by
  induction later generalizing field with
  | nil =>
    rw [List.map_singleton, List.intercalate_singleton,
      scan_encodeField field (endsField_lineFeed rest), scan_lineFeed (by decide)]
    simp [Scanned.prepend]
  | cons next later ih =>
    rw [List.map_cons, List.map_cons, List.intercalate_cons_cons, ← List.map_cons,
      List.append_assoc, List.append_assoc, List.singleton_append,
      scan_encodeField field (endsField_comma _), scan_comma (by decide), ih]
    simp [Scanned.prepend, Scanned.split]

/-- A written record is read as its fields. -/
theorem scan_encodeRecord (field : Bytes) (later : List Bytes) (rest : Bytes) :
    scan .start (encodeRecord (field :: later) ++ rest) = ⟨field, later, rest⟩ := by
  unfold encodeRecord
  rw [List.append_assoc, List.singleton_append]
  split
  · next h =>
    cases h
    have hclosing : Place.closing ≠ .quoted := by decide
    exact scan_lineFeed hclosing rest
  · exact scan_fields field later rest

theorem exists_cons_encodeField {field : Bytes} (h : field ≠ []) :
    ∃ b bs, encodeField field = b :: bs ∧ endsRecord b = false := by
  unfold encodeField
  split
  · exact ⟨quote, _, rfl, by decide⟩
  · next hf =>
    obtain ⟨b, bs, rfl⟩ := List.exists_cons_of_ne_nil h
    exact ⟨b, bs, rfl, (needsQuotes_cons.1 (by simpa using hf)).1.2.2⟩

/-- A written record begins with no byte that would be taken for a blank line. -/
theorem exists_cons_encodeRecord (field : Bytes) (later : List Bytes) :
    ∃ b bs, encodeRecord (field :: later) = b :: bs ∧ endsRecord b = false := by
  unfold encodeRecord
  split
  · exact ⟨quote, _, rfl, by decide⟩
  · next hne =>
    by_cases hf : field = []
    · subst hf
      cases later with
      | nil => exact absurd rfl hne
      | cons next later => exact ⟨comma, _, rfl, by decide⟩
    · obtain ⟨b, bs, hb, hend⟩ := exists_cons_encodeField hf
      cases later with
      | nil => exact ⟨b, bs ++ [lineFeed], by simp [hb], hend⟩
      | cons next later => exact ⟨b, _, by simp [hb]; rfl, hend⟩

/-! ## Files -/

theorem recordsFrom_encodeRecord (source : Bytes) (field : Bytes) (later : List Bytes)
    (rest : Bytes) :
    recordsFrom source (encodeRecord (field :: later) ++ rest) =
      ⟨field :: later, source⟩ :: recordsFrom rest rest := by
  obtain ⟨b, bs, hb, hend⟩ := exists_cons_encodeRecord field later
  have hscan := scan_encodeRecord field later rest
  rw [hb, List.cons_append] at hscan ⊢
  have hdrop : (b :: (bs ++ rest)).dropWhile endsRecord = b :: (bs ++ rest) :=
    List.dropWhile_cons_of_neg (by simp [hend])
  rw [recordsFrom]
  split
  · next h => rw [hdrop] at h; cases h
  · next h =>
    rw [hdrop] at h
    cases h
    simp [hscan, Scanned.fields]

/-- **Written records are read back in turn.** -/
theorem fields_recordsFrom_flatMap {all : List (List Bytes)} (h : ∀ fields ∈ all, fields ≠ [])
    (source : Bytes) :
    (recordsFrom source (all.flatMap encodeRecord)).map Record.fields = all := by
  induction all generalizing source with
  | nil => simp [recordsFrom]
  | cons fields all ih =>
    obtain ⟨field, later, rfl⟩ := List.exists_cons_of_ne_nil (h fields List.mem_cons_self)
    rw [List.flatMap_cons, recordsFrom_encodeRecord, List.map_cons,
      ih fun fields hf => h fields (List.mem_cons_of_mem _ hf)]

end PolicyBench.Csv
