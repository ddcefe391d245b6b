/-
  PolicyBench — imported tables exported again.

  A file need not have been written by the program to be read: its values may have
  signs, exponents and any number of digits.  What is read is a count or the number
  nearest to a decimal, so it is never NaN; but a decimal beyond the range of the
  format is read as an infinity, and for that there is no text that could be read
  again.  So a table that was imported can be exported and imported again, as the
  same table, exactly if no decimal in it was too large.

  * `MetricValue.parse_ne_nan`: no text is read as NaN, and
    `MetricValue.parse_eq_infinite_iff`: which are read as infinities;
  * `HoldsCell`: a text is a value in a file; `exists_cell_of_decode`: every value of
    an imported table is read from such a text;
  * `Table.InRange`: no value is infinite;
  * `read_write_of_decode`: what becomes of an imported table that is exported;
  * `reimport_too_large`: a file with a decimal that is too large.
-/
import PolicyBench.Proofs.Binary64.Overflow
import PolicyBench.Proofs.Csv.Export

namespace PolicyBench

/-! ## What a text is read as -/

theorem Binary64.ofRatio_ne_nan (negative : Bool) (num den : Nat) :
    ofRatio negative num den ≠ nan := by
  intro h
  unfold ofRatio at h
  split at h <;> cases h

theorem Binary64.ofText?_ne_nan (cs : List Char) : ofText? cs ≠ some nan := by
  intro h
  obtain ⟨d, -, hround⟩ := Option.map_eq_some_iff.1 h
  rw [Decimal.round_eq_ofRatio] at hround
  exact ofRatio_ne_nan _ _ _ hround

namespace MetricValue

/-- No text is read as NaN. -/
theorem parse_ne_nan (s : String) : parse s ≠ .ok (measure .nan) := by
  intro h
  unfold parse at h
  split at h
  · split at h
    · next x hx =>
      cases h
      exact Binary64.ofText?_ne_nan _ hx
    · cases h
  · split at h <;> cases h

/-- The text is a decimal with a point, of a magnitude that is rounded out of the
    range. -/
def Overflows (negative : Bool) (s : String) : Prop :=
  '.' ∈ s.toList ∧ ∃ d, Binary64.decimal? s.toList = some (negative, d) ∧ d.TooLarge

/-- Such a text, and no other, is read as an infinity. -/
theorem parse_eq_infinite_iff {s : String} {negative : Bool} :
    parse s = .ok (measure (.infinite negative)) ↔ Overflows negative s := by
  rw [Overflows, ← Binary64.ofText?_eq_infinite_iff]
  unfold parse
  by_cases hpoint : '.' ∈ s.toList
  · rw [if_pos hpoint, and_iff_right hpoint]
    cases Binary64.ofText? s.toList <;> simp
  · rw [if_neg hpoint]
    refine iff_of_false (fun h => ?_) fun h => hpoint h.1
    split at h <;> cases h

/-- A value that is not NaN is finite exactly if it is not infinite. -/
theorem isFinite_iff_of_ne_nan {v : MetricValue} (h : v ≠ measure .nan) :
    v.isFinite = true ↔ ∀ negative, v ≠ measure (.infinite negative) := by
  cases v with
  | count n => exact iff_of_true rfl nofun
  | measure x =>
    cases x with
    | nan => exact absurd rfl h
    | infinite negative => exact iff_of_false nofun fun h => h negative rfl
    | finite => exact iff_of_true rfl nofun

end MetricValue

/-- No value of the row is infinite. -/
def Row.InRange (row : Row) : Prop :=
  ∀ column negative, row.get? column ≠ some (.measure (.infinite negative))

/-- No value of the table is infinite. -/
def Table.InRange (table : Table) : Prop := ∀ row ∈ table.rows, row.InRange

namespace Csv

open Text (Bytes)

/-! ## Where values come from -/

/-- The text is a value in the file: it stands in a record behind the headings,
    after the policy. -/
def HoldsCell (file : Bytes) (text : String) : Prop :=
  ∃ record ∈ (records file).tail, Text.utf8 text ∈ record.fields.tail

theorem eq_map_utf8_of_textsOf {number : Nat} {fields : List Bytes} {texts : List String}
    (h : textsOf number fields = .ok texts) : fields = texts.map Text.utf8 := by
  induction fields generalizing number texts with
  | nil => cases h; rfl
  | cons field rest ih =>
    rw [textsOf] at h
    split at h
    · cases h
    · next text htext =>
      obtain ⟨others, hothers, hsame⟩ := bind_eq_ok_iff.1 h
      cases pure_eq_ok_iff.1 hsame
      rw [List.map_cons, ← ih hothers, Text.utf8_of_ofUtf8? htext]

theorem fields_eq_of_texts {file : Bytes} {index : Nat} {width : Option Nat} {record : Record}
    {texts : List String} (h : record.texts file index width = .ok texts) :
    record.fields = texts.map Text.utf8 := by
  unfold Record.texts at h
  dsimp only at h
  split at h
  · cases h
  · exact eq_map_utf8_of_textsOf (mapError_eq_ok_iff.1 h)

theorem exists_of_mem_valuesOf {policy : String} {cells : List (String × String)}
    {entries : List (String × MetricValue)} (h : valuesOf policy cells = .ok entries) :
    ∀ e ∈ entries, ∃ cell ∈ cells, MetricValue.parse cell.2 = .ok e.2 := by
  induction cells generalizing entries with
  | nil => cases h; exact List.forall_mem_nil _
  | cons cell rest ih =>
    obtain ⟨column, field⟩ := cell
    rw [valuesOf] at h
    split at h
    · intro e he
      obtain ⟨cell, hcell, hparse⟩ := ih h e he
      exact ⟨cell, List.mem_cons_of_mem _ hcell, hparse⟩
    · split at h
      · cases h
      · next value hvalue =>
        obtain ⟨others, hothers, hsame⟩ := bind_eq_ok_iff.1 h
        cases pure_eq_ok_iff.1 hsame
        rw [List.forall_mem_cons]
        refine ⟨⟨_, List.mem_cons_self, hvalue⟩, fun e he => ?_⟩
        obtain ⟨cell, hcell, hparse⟩ := ih hothers e he
        exact ⟨cell, List.mem_cons_of_mem _ hcell, hparse⟩

/-- The values of a row are read from its fields. -/
theorem exists_field_of_rowOf {columns fields : List String} {number : Nat} {row : Row}
    (h : rowOf columns number fields = .ok row) {column : String} {v : MetricValue}
    (hv : row.get? column = some v) : ∃ text ∈ fields.tail, MetricValue.parse text = .ok v := by
  cases fields with
  | nil => cases h
  | cons policy cells =>
    obtain ⟨entries, hentries, hrow⟩ := bind_eq_ok_iff.1 h
    cases pure_eq_ok_iff.1 hrow
    rw [Row.get?, NameMap.get?_ofList] at hv
    obtain ⟨cell, hcell, hparse⟩ :=
      exists_of_mem_valuesOf hentries _ (List.mem_reverse.1 (NameMap.mem_of_lookup hv))
    exact ⟨cell.2, (List.of_mem_zip hcell).2, hparse⟩

/-- The rows are read from the records behind the headings. -/
theorem exists_record_of_rowsOfRecords {file : Bytes} {columns : List String} {number : Nat}
    {all : List Record} {rows : List Row} (h : rowsOfRecords file columns number all = .ok rows) :
    ∀ row ∈ rows, ∃ record ∈ all, ∃ fields number, record.fields = fields.map Text.utf8 ∧
      rowOf columns number fields = .ok row := by
  induction all generalizing number rows with
  | nil => cases h; exact List.forall_mem_nil _
  | cons record rest ih =>
    rw [rowsOfRecords] at h
    obtain ⟨row, hrow, h⟩ := bind_eq_ok_iff.1 h
    obtain ⟨others, hothers, h⟩ := bind_eq_ok_iff.1 h
    obtain ⟨fields, hfields, hrow⟩ := bind_eq_ok_iff.1 hrow
    cases pure_eq_ok_iff.1 h
    rw [List.forall_mem_cons]
    refine ⟨⟨record, List.mem_cons_self, fields, number,
      fields_eq_of_texts (mapError_eq_ok_iff.1 hfields), hrow⟩, fun r hr => ?_⟩
    obtain ⟨record, hrecord, hrest⟩ := ih hothers r hr
    exact ⟨record, List.mem_cons_of_mem _ hrecord, hrest⟩

/-- Records are read as a table one by one, the headings first. -/
theorem decodeRecords_eq_ok_iff {file : Bytes} {all : List Record} {table : Table} :
    decodeRecords file all = .ok table ↔ ∃ record, all.head? = some record ∧
      record.texts file 0 none = .ok (policyColumn :: table.columns) ∧
      rowsOfRecords file table.columns 0 all.tail = .ok table.rows := by
  unfold decodeRecords
  dsimp only
  cases hall : all.head? with
  | none => exact iff_of_false nofun nofun
  | some record =>
    simp only [bind_eq_ok_iff, mapError_eq_ok_iff, Option.some.injEq, exists_eq_left']
    constructor
    · rintro ⟨headings, hheadings, h⟩
      split at h
      · cases h
      · next hhead =>
        obtain ⟨columns, rfl⟩ := List.head?_eq_some_iff.1 (Decidable.not_not.1 hhead)
        obtain ⟨rows, hrows, h⟩ := bind_eq_ok_iff.1 h
        obtain ⟨rfl, rfl⟩ := Table.ofRows_eq_ok_iff.1 (mapError_eq_ok_iff.1 h)
        exact ⟨hheadings, hrows⟩
    · rintro ⟨hheadings, hrows⟩
      refine ⟨_, hheadings, ?_⟩
      rw [List.head?_cons, if_neg (not_not_intro rfl)]
      exact bind_eq_ok_iff.2 ⟨_, hrows, mapError_eq_ok_iff.2 table.ofRows_columns_rows⟩

section
variable {file : Bytes} {table : Table} (h : decode file = .ok table)
include h

/-- **Every value of an imported table is read from a cell of the file.** -/
theorem exists_cell_of_decode {row : Row} (hrow : row ∈ table.rows) {column : String}
    {v : MetricValue} (hv : row.get? column = some v) :
    ∃ text, HoldsCell file text ∧ MetricValue.parse text = .ok v := by
  obtain ⟨head, -, -, hrows⟩ := decodeRecords_eq_ok_iff.1 h
  obtain ⟨record, hrecord, fields, _, hfields, hrowOf⟩ :=
    exists_record_of_rowsOfRecords hrows row hrow
  obtain ⟨text, htext, hparse⟩ := exists_field_of_rowOf hrowOf hv
  refine ⟨text, ⟨record, hrecord, ?_⟩, hparse⟩
  rw [hfields, ← List.map_tail]
  exact List.mem_map_of_mem htext

/-- An imported table has finite values exactly if it has no infinite one. -/
theorem allFinite_iff_of_decode : table.AllFinite ↔ table.InRange := by
  refine forall₂_congr fun row hrow => Row.allFinite_iff.trans ?_
  have hnumber : ∀ column v, row.get? column = some v → v ≠ .measure .nan := by
    rintro column v hv rfl
    obtain ⟨text, -, hparse⟩ := exists_cell_of_decode h hrow hv
    exact MetricValue.parse_ne_nan text hparse
  constructor
  · intro hfinite column negative hv
    exact nomatch hfinite column _ hv
  · intro hrange column v hv
    rw [MetricValue.isFinite_iff_of_ne_nan (hnumber column v hv)]
    rintro negative rfl
    exact hrange column negative hv

/-- **An imported table that is exported is imported as the same table exactly if
    it has no infinite value.**  Such a value stands in the file as a decimal that is
    too large. -/
theorem read_write_of_decode (fs : FileSystem) {output : Path} (houtput : fs.TakesFile output) :
    (write fs table output).1 = .ok () ∧
      (∀ t, read (write fs table output).2 output = .ok t ↔ table.InRange ∧ t = table) ∧
      ∀ row ∈ table.rows, ∀ column negative,
        row.get? column = some (.measure (.infinite negative)) →
          ∃ text, HoldsCell file text ∧ MetricValue.Overflows negative text := by
  obtain ⟨hwrite, hread⟩ := read_write houtput table
  refine ⟨hwrite, fun t => ?_, fun row hrow column negative hv => ?_⟩
  · rw [hread, decode_encode_eq_ok_iff, allFinite_iff_of_decode h]
  · obtain ⟨text, htext, hparse⟩ := exists_cell_of_decode h hrow hv
    exact ⟨text, htext, MetricValue.parse_eq_infinite_iff.1 hparse⟩

end

/-- A byte order mark, a carriage return, an empty line, a quoted field, a sign,
    zeros in front and an exponent. -/
theorem read_write_of_foreign_file :
    let file := Text.utf8 "\uFEFFpolicy,x,y\r\n\"a\",+007,1.50e2\r\n\r\nb,,-0.0\n"
    ∃ table, decode file = .ok table ∧
      (table.rows.map fun row => (row.policy, row.values.entries.map fun e => (e.1, e.2.text))) =
        [("a", [("x", "7"), ("y", "150.0")]), ("b", [("y", "-0.0")])] ∧
      FileSystem.fresh.TakesFile ⟨"out.csv"⟩ ∧ table.InRange ∧
      read (write .fresh table ⟨"out.csv"⟩).2 ⟨"out.csv"⟩ = .ok table := by
  intro file
  have hfile : ∃ table ∈ (decode file).toOption,
      (table.rows.map fun row => (row.policy, row.values.entries.map fun e => (e.1, e.2.text))) =
        [("a", [("x", "7"), ("y", "150.0")]), ("b", [("y", "-0.0")])] ∧
      ∀ row ∈ table.rows, ∀ e ∈ row.values.entries, e.2.isFinite = true := by
    decide +kernel
  obtain ⟨table, htable, htexts, hfinite⟩ := hfile
  have hdecode := mem_toOption_iff.1 htable
  have htakes := FileSystem.takesFile_fresh_out
  have hrange : table.InRange := (allFinite_iff_of_decode hdecode).1 hfinite
  exact ⟨table, hdecode, htexts, htakes, hrange,
    ((read_write_of_decode hdecode .fresh htakes).2.1 table).2 ⟨hrange, rfl⟩⟩

/-- A decimal that is too large is imported, and what is exported for it is refused. -/
theorem reimport_too_large :
    ∃ table, decode (Text.utf8 "policy,x\na,1.0e999\n") = .ok table ∧
      (write .fresh table ⟨"out.csv"⟩).1 = .ok () ∧
      ∃ problem, read (write .fresh table ⟨"out.csv"⟩).2 ⟨"out.csv"⟩ = .error problem := by
  have hfile : ∃ table ∈ (decode (Text.utf8 "policy,x\na,1.0e999\n")).toOption,
      table.rows = [⟨"a", ⟨[("x", .measure (.infinite false))], by decide⟩⟩] := by
    decide +kernel
  obtain ⟨table, htable, hrows⟩ := hfile
  obtain ⟨hwrite, hread⟩ := read_write FileSystem.takesFile_fresh_out table
  refine ⟨table, mem_toOption_iff.1 htable, hwrite, exists_eq_error_iff.2 fun t ht => ?_⟩
  rw [hread] at ht
  have hfinite := (decode_encode_eq_ok_iff.1 ht).1
  rw [Table.AllFinite, hrows] at hfinite
  exact nomatch hfinite _ List.mem_cons_self _ List.mem_cons_self

end Csv

end PolicyBench
