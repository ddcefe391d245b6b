/-
  PolicyBench — written tables read back.

  The file of a table is read as that table, whatever its names and values are,
  unless a value is NaN or infinite, which has no text that could be read.

  * `valuesOf_cells_eq_ok_iff`, `rowOf_rowFields_eq_ok_iff`: the same for the
    values of a row, and for a row;
  * `rowsOfRecords_eq_ok_iff`: and for all rows;
  * `decode_encode_eq_ok_iff`: a file that was written gives a table exactly if all
    values are finite, and then the one that was written.
-/
import PolicyBench.Csv.Table
import PolicyBench.Proofs.Csv.Record
import PolicyBench.Proofs.Except
import PolicyBench.Proofs.Table.Basic

namespace PolicyBench.Csv

open Text (Bytes)

/-! ## Records of texts -/

theorem textsOf_utf8 (number : Nat) (texts : List String) :
    textsOf number (texts.map Text.utf8) = .ok texts := by
  induction texts generalizing number with
  | nil => rfl
  | cons text texts ih =>
    rw [List.map_cons, textsOf, Text.ofUtf8?_utf8]
    exact bind_eq_ok_iff.2 ⟨texts, ih (number + 1), rfl⟩

/-- A record of texts is read as these, if their number is right. -/
theorem texts_utf8 {record : Record} {texts : List String}
    (h : record.fields = texts.map Text.utf8) (width : Option Nat)
    (hw : ∀ w, width = some w → w = texts.length) (file : Bytes) (index : Nat) :
    record.texts file index width = .ok texts := by
  have hwidth : width.filter (· ≠ record.fields.length) = none := by
    cases width with
    | none => rfl
    | some w =>
      obtain rfl := hw w rfl
      simp [h]
  unfold Record.texts
  rw [hwidth]
  dsimp only
  rw [h, mapError_eq_ok_iff, textsOf_utf8]

/-! ## Rows -/

theorem cell_none : cell none = "" := rfl

theorem cell_some_ne (v : MetricValue) : cell (some v) ≠ "" := v.text_ne_empty

/-- The cells of a row are read as its values exactly if these are finite. -/
theorem valuesOf_cells_eq_ok_iff {policy : String} {columns : List String} {row : Row}
    {entries : List (String × MetricValue)} :
    valuesOf policy (columns.map fun column => (column, cell (row.get? column))) = .ok entries ↔
      (∀ column ∈ columns, ∀ v, row.get? column = some v → v.isFinite = true) ∧
        entries = columns.filterMap fun column => (row.get? column).map (column, ·) := by
  induction columns generalizing entries with
  | nil =>
    constructor
    · rintro ⟨rfl⟩; exact ⟨nofun, rfl⟩
    · rintro ⟨-, rfl⟩; rfl
  | cons column columns ih =>
    rw [List.map_cons, valuesOf]
    cases hv : row.get? column with
    | none =>
      rw [if_pos cell_none, ih]
      simp [hv]
    | some v =>
      have hcell : cell (some v) = v.text := rfl
      rw [if_neg (cell_some_ne v), hcell]
      cases hp : MetricValue.parse v.text with
      | error problem =>
        have hfinite : ¬ v.isFinite = true := fun hf => by
          rw [MetricValue.parse_text_eq_ok_iff.2 ⟨hf, rfl⟩] at hp
          cases hp
        constructor
        · nofun
        · intro h
          exact absurd (h.1 column List.mem_cons_self v hv) hfinite
      | ok w =>
        obtain ⟨hf, rfl⟩ := MetricValue.parse_text_eq_ok_iff.1 hp
        simp only [bind_eq_ok_iff, pure_eq_ok_iff, ih, List.forall_mem_cons, hv,
          Option.some.injEq, forall_eq', hf, true_and, List.filterMap_cons, Option.map_some]
        constructor
        · rintro ⟨rest, ⟨hall, rfl⟩, rfl⟩
          exact ⟨hall, rfl⟩
        · rintro ⟨hall, rfl⟩
          exact ⟨_, ⟨hall, rfl⟩, rfl⟩

/-- The values of a row are found again among those of its columns. -/
theorem ofList_filterMap_get? {columns : List String} {row : Row}
    (hcovered : ∀ name ∈ row.values.names, name ∈ columns) :
    NameMap.ofList (columns.filterMap fun column => (row.get? column).map (column, ·)) =
      row.values := by
  refine NameMap.ext_get? fun name => ?_
  have hgraph : ∀ e ∈ (columns.filterMap fun column =>
      (row.get? column).map (column, ·)).reverse, row.get? e.1 = some e.2 := by
    intro e he
    rw [List.mem_reverse, List.mem_filterMap] at he
    obtain ⟨column, -, he⟩ := he
    obtain ⟨v, hv, rfl⟩ := Option.map_eq_some_iff.1 he
    exact hv
  rw [NameMap.get?_ofList, NameMap.lookup_of_graph hgraph]
  cases hv : row.values.get? name with
  | none => rw [Row.get?, hv, ite_self]
  | some v =>
    have hmem : name ∈ columns := hcovered name (NameMap.mem_names_iff.2 (by rw [hv]; rfl))
    have hentry : (name, v) ∈ columns.filterMap fun column => (row.get? column).map (column, ·) :=
      List.mem_filterMap.2 ⟨name, hmem, by rw [Row.get?, hv]; rfl⟩
    rw [List.map_reverse, if_pos (List.mem_reverse.2 (List.mem_map_of_mem (f := Prod.fst) hentry)),
      Row.get?, hv]

theorem zip_map_cell (columns : List String) (row : Row) :
    columns.zip (columns.map fun column => cell (row.get? column)) =
      columns.map fun column => (column, cell (row.get? column)) := by
  induction columns with
  | nil => rfl
  | cons column columns ih => rw [List.map_cons, List.zip_cons_cons, ih, List.map_cons]

/-- The fields of a row are read as that row exactly if its values are finite. -/
theorem rowOf_rowFields_eq_ok_iff {columns : List String} {row r : Row}
    (hcovered : ∀ name ∈ row.values.names, name ∈ columns) (number : Nat) :
    rowOf columns number (rowFields columns row) = .ok r ↔ row.AllFinite ∧ r = row := by
  have hfinite : (∀ column ∈ columns, ∀ v, row.get? column = some v → v.isFinite = true) ↔
      row.AllFinite := by
    rw [Row.allFinite_iff]
    refine ⟨fun h column v hv => h column (hcovered column ?_) v hv, fun h c _ => h c⟩
    exact NameMap.mem_names_iff.2 (Option.isSome_iff_exists.2 ⟨v, hv⟩)
  rw [rowFields, rowOf, zip_map_cell]
  simp only [bind_eq_ok_iff, valuesOf_cells_eq_ok_iff, hfinite, pure_eq_ok_iff]
  constructor
  · rintro ⟨_, ⟨hall, rfl⟩, rfl⟩
    exact ⟨hall, by rw [ofList_filterMap_get? hcovered]⟩
  · rintro ⟨hall, rfl⟩
    exact ⟨_, ⟨hall, rfl⟩, by rw [ofList_filterMap_get? hcovered]⟩

/-- The records of rows are read as these rows exactly if their values are finite. -/
theorem rowsOfRecords_eq_ok_iff {file : Bytes} {columns : List String} {rows : List Row}
    (hcovered : ∀ row ∈ rows, ∀ name ∈ row.values.names, name ∈ columns) {number : Nat}
    {all : List Record}
    (hall : all.map Record.fields = rows.map fun row => (rowFields columns row).map Text.utf8)
    {read : List Row} :
    rowsOfRecords file columns number all = .ok read ↔
      (∀ row ∈ rows, row.AllFinite) ∧ read = rows := by
  induction rows generalizing number all read with
  | nil =>
    obtain rfl := List.map_eq_nil_iff.1 hall
    simp [rowsOfRecords, eq_comm]
  | cons row rows ih =>
    obtain ⟨record, rest, rfl, hrecord, hrest⟩ := List.map_eq_cons_iff.1 hall
    obtain ⟨hrow, hrows⟩ := List.forall_mem_cons.1 hcovered
    have htexts := texts_utf8 hrecord (some (columns.length + 1))
      (by simp [rowFields]) file (number + 1)
    rw [rowsOfRecords, rowOfRecord]
    simp only [bind_eq_ok_iff, mapError_eq_ok_iff, htexts, Except.ok.injEq, exists_eq_left',
      rowOf_rowFields_eq_ok_iff hrow, ih hrows hrest, pure_eq_ok_iff, List.forall_mem_cons]
    constructor
    · rintro ⟨_, ⟨hf, rfl⟩, _, ⟨hfs, rfl⟩, rfl⟩
      exact ⟨⟨hf, hfs⟩, rfl⟩
    · rintro ⟨⟨hf, hfs⟩, rfl⟩
      exact ⟨_, ⟨hf, rfl⟩, _, ⟨hfs, rfl⟩, rfl⟩

/-! ## Tables -/

/-- All records of the file of a table. -/
def allFields (table : Table) : List (List String) :=
  headingFields table :: table.rows.map (rowFields table.columns)

theorem encode_eq_flatMap (table : Table) :
    encode table = ((allFields table).map (·.map Text.utf8)).flatMap encodeRecord := by
  simp [encode, allFields, encodeTexts, List.flatMap_map]

theorem afterByteOrderMark_encode (table : Table) :
    afterByteOrderMark (encode table) = encode table := by
  have hplain : encodeField (Text.utf8 policyColumn) = 0x70 :: [0x6F, 0x6C, 0x69, 0x63, 0x79] := by
    decide
  obtain ⟨bs, hbs⟩ : ∃ bs, encode table = 0x70 :: bs := by
    unfold encode encodeTexts headingFields encodeRecord
    rw [if_neg (by simp [show Text.utf8 policyColumn ≠ [] by decide]), List.map_cons]
    cases table.columns <;> simp [hplain]
  rw [hbs]
  rfl

theorem fields_records_encode (table : Table) :
    (records (encode table)).map Record.fields = (allFields table).map (·.map Text.utf8) := by
  rw [records, afterByteOrderMark_encode]
  conv => lhs; arg 2; arg 2; rw [encode_eq_flatMap]
  refine fields_recordsFrom_flatMap ?_ _
  simp [allFields, headingFields, rowFields]

/-- **A written table is read back exactly if all its values are finite.** -/
theorem decode_encode_eq_ok_iff {table t : Table} :
    decode (encode table) = .ok t ↔ table.AllFinite ∧ t = table := by
  obtain ⟨head, rest, hrecords, hhead, hrest⟩ :=
    List.map_eq_cons_iff.1 (fields_records_encode table)
  have htexts := texts_utf8 hhead none nofun (encode table) 0
  unfold decode decodeRecords
  simp only [hrecords, List.head?_cons, List.tail_cons, bind_eq_ok_iff, mapError_eq_ok_iff, htexts,
    Except.ok.injEq, exists_eq_left', headingFields, ne_eq, not_true_eq_false, if_false]
  rw [List.map_map] at hrest
  simp only [rowsOfRecords_eq_ok_iff table.covered hrest, Table.ofRows_eq_ok_iff]
  constructor
  · rintro ⟨_, ⟨hfinite, rfl⟩, hcolumns, hrows⟩
    exact ⟨hfinite, Table.ext_columns_rows hcolumns hrows⟩
  · rintro ⟨hfinite, rfl⟩
    exact ⟨_, ⟨hfinite, rfl⟩, rfl, rfl⟩

end PolicyBench.Csv
