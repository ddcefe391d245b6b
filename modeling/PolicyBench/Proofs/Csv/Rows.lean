/-
  PolicyBench — records read as rows.

  A record behind the headings is read as a row if it is a line of the table: a text
  for the policy and one for each column, and of the latter each is empty or a value.
  Of several columns of one name the last that is not empty counts.  Else the record
  has a fault; the number of its fields is looked at first, then whether they are
  texts, and at last the values, from left to right.

  * `IsLine`: what is asked of a record, and `IsRow`: what the row of a line holds;
  * `LastCell`: which cell counts in a column;
  * `RecordFault`: what is wrong with a record;
  * `rowOfRecord_eq_ok_iff`, `rowOfRecord_eq_error_iff`: a record is read as a row in
    the one case, and refused in the other;
  * `rowsOfRecords_eq_ok_iff_lines`, `rowsOfRecords_eq_error_iff`: the same for all
    records, of which the first at fault is named.
-/
import Mathlib.Data.List.Forall2
import PolicyBench.Proofs.Csv.Import

namespace PolicyBench.Csv

open Text (Bytes)

variable {file : Bytes} {columns : List String} {number : Nat} {record : Record}

/-! ## Texts -/

/-- The first field that is no text, and the byte where it stops being text. -/
def FirstNoText (fields : List Bytes) (field byte : Nat) : Prop :=
  ∃ before bad after, fields = before ++ bad :: after ∧
    (∀ other ∈ before, ∃ text, other = Text.utf8 text) ∧ Text.ofUtf8? bad = none ∧
    field = before.length ∧ byte = Text.validLength bad

theorem textsOf_eq_ok_iff {fields : List Bytes} {texts : List String} :
    textsOf number fields = .ok texts ↔ fields = texts.map Text.utf8 :=
  ⟨eq_map_utf8_of_textsOf, fun h => h ▸ textsOf_utf8 number texts⟩

/-- Fields counted from `number` on are read up to the first that is no text. -/
theorem textsOf_eq_error_iff {fields : List Bytes} {e : Nat × Nat} :
    textsOf number fields = .error e ↔
      ∃ before bad after, fields = before ++ bad :: after ∧
        (∀ other ∈ before, ∃ text, other = Text.utf8 text) ∧ Text.ofUtf8? bad = none ∧
        e = (number + before.length, Text.validLength bad) := by
  induction fields generalizing number with
  | nil => exact iff_of_false nofun not_exists_split_nil
  | cons field rest ih =>
    rw [exists_split_cons_iff, textsOf]
    cases htext : Text.ofUtf8? field with
    | none =>
      have hfield : ¬ ∃ text, field = Text.utf8 text := by
        rintro ⟨text, rfl⟩
        rw [Text.ofUtf8?_utf8] at htext
        cases htext
      simp only [hfield, List.forall_mem_cons, List.not_mem_nil, IsEmpty.forall_iff,
        implies_true, false_and, and_false, exists_false, or_false, true_and, List.length_nil,
        Nat.add_zero, Except.error.injEq]
      exact eq_comm
    | some text =>
      obtain rfl := Text.ofUtf8?_eq_some_iff.1 htext
      have hfield : ∃ text', Text.utf8 text = Text.utf8 text' := ⟨text, rfl⟩
      have hcount (n : Nat) : number + 1 + n = number + (n + 1) := by omega
      simp only [bind_eq_error_iff, pure_ne_error, ih, hfield, hcount, List.forall_mem_cons,
        reduceCtorEq, false_and, and_false, exists_false, or_false, false_or,
        true_and, List.length_cons]

/-- The number of fields is looked at before they are read as texts. -/
theorem texts_of_width {index width : Nat} :
    record.texts file index (some width) =
      if record.fields.length = width then record.texts file index none
      else .error (.unequal index (Position.of file record.source) record.fields.length
        width) := by
  unfold Record.texts
  dsimp only
  rw [Option.filter_some]
  split <;> split <;> simp_all

theorem texts_eq_ok_iff {index : Nat} {texts : List String} :
    record.texts file index none = .ok texts ↔ record.fields = texts.map Text.utf8 :=
  mapError_eq_ok_iff.trans textsOf_eq_ok_iff

theorem texts_eq_error_iff {index : Nat} {problem : RecordError} :
    record.texts file index none = .error problem ↔
      ∃ field byte, FirstNoText record.fields field byte ∧
        problem = .notText index (Position.of file record.source) field byte := by
  refine mapError_eq_error_iff.trans ?_
  simp only [textsOf_eq_error_iff, Nat.zero_add, FirstNoText]
  constructor
  · rintro ⟨_, ⟨before, bad, after, hsplit, hbefore, hbad, rfl⟩, hproblem⟩
    exact ⟨_, _, ⟨before, bad, after, hsplit, hbefore, hbad, rfl, rfl⟩, hproblem⟩
  · rintro ⟨_, _, ⟨before, bad, after, hsplit, hbefore, hbad, rfl, rfl⟩, hproblem⟩
    exact ⟨_, ⟨before, bad, after, hsplit, hbefore, hbad, rfl⟩, hproblem⟩

/-! ## Cells -/

/-- The text is empty or a value. -/
def IsCell (text : String) : Prop := text = "" ∨ ∃ v, MetricValue.parse text = .ok v

/-- Of the cells, each with its column, the text is the last in the column that is not
    empty. -/
def LastCell (cells : List (String × String)) (column text : String) : Prop :=
  ∃ before after, cells = before ++ (column, text) :: after ∧ text ≠ "" ∧
    ∀ cell ∈ after, cell.1 = column → cell.2 = ""

/-- The first cell that is neither empty nor a value stands in the column. -/
def FirstNoValue (cells : List (String × String)) (column : String) (problem : ValueError) :
    Prop :=
  ∃ before bad after, cells = before ++ bad :: after ∧ (∀ cell ∈ before, IsCell cell.2) ∧
    bad.1 = column ∧ bad.2 ≠ "" ∧ MetricValue.parse bad.2 = .error problem

/-- In each column stands the value of its last cell that is not empty, if there is
    one. -/
structure Shows (cells : List (String × String)) (get? : String → Option MetricValue) : Prop where
  some_iff : ∀ column v, get? column = some v ↔
    ∃ text, LastCell cells column text ∧ MetricValue.parse text = .ok v
  none_iff : ∀ column, get? column = none ↔ ∀ cell ∈ cells, cell.1 = column → cell.2 = ""

variable {cells : List (String × String)} {column text : String}

theorem lastCell_cons_iff {first : String × String} :
    LastCell (first :: cells) column text ↔ LastCell cells column text ∨
      (first = (column, text) ∧ text ≠ "" ∧ ∀ cell ∈ cells, cell.1 = column → cell.2 = "") := by
  constructor
  · rintro ⟨before, after, hsplit, htext, hafter⟩
    cases before with
    | nil =>
      cases hsplit
      exact .inr ⟨rfl, htext, hafter⟩
    | cons _ before =>
      cases hsplit
      exact .inl ⟨before, after, rfl, htext, hafter⟩
  · rintro (⟨before, after, rfl, htext, hafter⟩ | ⟨rfl, htext, hafter⟩)
    · exact ⟨first :: before, after, rfl, htext, hafter⟩
    · exact ⟨[], cells, rfl, htext, hafter⟩

theorem Shows.nil : Shows [] fun _ => none where
  some_iff _ _ := iff_of_false nofun fun ⟨_, ⟨before, after, h, _⟩, _⟩ =>
    List.append_ne_nil_of_right_ne_nil before (List.cons_ne_nil _ after) h.symm
  none_iff _ := iff_of_true rfl (List.forall_mem_nil _)

/-- An empty cell in front changes nothing. -/
theorem Shows.cons_empty {get? : String → Option MetricValue} (h : Shows cells get?) :
    Shows ((column, "") :: cells) get? where
  some_iff c v := by
    rw [h.some_iff]
    simp only [lastCell_cons_iff, Prod.mk.injEq]
    refine exists_congr fun text => and_congr_left fun _ => (or_iff_left ?_).symm
    rintro ⟨⟨-, rfl⟩, hne, -⟩
    exact hne rfl
  none_iff c := by
    rw [h.none_iff, List.forall_mem_cons]
    exact (and_iff_right fun _ => rfl).symm

/-- A value in front counts in its column if that is empty else. -/
theorem Shows.cons_value {get? : String → Option MetricValue} (h : Shows cells get?)
    (htext : text ≠ "") {v : MetricValue} (hv : MetricValue.parse text = .ok v) :
    Shows ((column, text) :: cells)
      fun c => (get? c).or (if column = c then some v else none) where
  some_iff c w := by
    simp only [lastCell_cons_iff, Option.or_eq_some_iff, h.some_iff, h.none_iff, Prod.mk.injEq,
      or_and_right, exists_or]
    refine or_congr_right ?_
    constructor
    · rintro ⟨hlater, hsame⟩
      obtain ⟨rfl, hvw⟩ := Option.ite_none_right_eq_some.1 hsame
      cases hvw
      exact ⟨text, ⟨⟨rfl, rfl⟩, htext, hlater⟩, hv⟩
    · rintro ⟨_, ⟨⟨rfl, rfl⟩, -, hlater⟩, hw⟩
      rw [hv, Except.ok.injEq] at hw
      exact ⟨hlater, by rw [if_pos rfl, hw]⟩
  none_iff c := by
    rw [Option.or_eq_none_iff, h.none_iff, List.forall_mem_cons, and_comm]
    refine and_congr_left fun _ => ?_
    simp [htext]

/-- There is only one way to fill a row from cells. -/
theorem Shows.unique {get? get?' : String → Option MetricValue} (h : Shows cells get?)
    (h' : Shows cells get?') (column : String) : get? column = get?' column :=
  Option.ext fun v => by rw [h.some_iff, h'.some_iff]

/-! ## Values of a row -/

variable {policy : String}

theorem lookup_cons_reverse (name : String) (e : String × MetricValue)
    (entries : List (String × MetricValue)) :
    NameMap.lookup name (e :: entries).reverse =
      (NameMap.lookup name entries.reverse).or (if e.1 = name then some e.2 else none) := by
  rw [List.reverse_cons, NameMap.lookup_append]
  rfl

theorem shows_of_valuesOf {entries : List (String × MetricValue)}
    (h : valuesOf policy cells = .ok entries) :
    (∀ cell ∈ cells, IsCell cell.2) ∧ Shows cells (NameMap.ofList entries).get? := by
  have hlookup : (NameMap.ofList entries).get? = fun c => NameMap.lookup c entries.reverse :=
    funext (NameMap.get?_ofList entries)
  rw [hlookup]
  clear hlookup
  induction cells generalizing entries with
  | nil => cases h; exact ⟨List.forall_mem_nil _, Shows.nil⟩
  | cons cell rest ih =>
    obtain ⟨column, text⟩ := cell
    rw [valuesOf] at h
    split at h
    · next hempty =>
      obtain rfl : text = "" := hempty
      obtain ⟨hcells, hshows⟩ := ih h
      exact ⟨List.forall_mem_cons.2 ⟨.inl rfl, hcells⟩, hshows.cons_empty⟩
    · next hne =>
      split at h
      · cases h
      · next v hv =>
        obtain ⟨others, hothers, hsame⟩ := bind_eq_ok_iff.1 h
        cases pure_eq_ok_iff.1 hsame
        obtain ⟨hcells, hshows⟩ := ih hothers
        refine ⟨List.forall_mem_cons.2 ⟨.inr ⟨v, hv⟩, hcells⟩, ?_⟩
        simp only [lookup_cons_reverse]
        exact hshows.cons_value hne hv

theorem exists_valuesOf (policy : String) (h : ∀ cell ∈ cells, IsCell cell.2) :
    ∃ entries, valuesOf policy cells = .ok entries := by
  induction cells with
  | nil => exact ⟨[], rfl⟩
  | cons cell rest ih =>
    obtain ⟨column, text⟩ := cell
    obtain ⟨hcell, hrest⟩ := List.forall_mem_cons.1 h
    obtain ⟨entries, hentries⟩ := ih hrest
    rw [valuesOf]
    split
    · exact ⟨entries, hentries⟩
    · next hne =>
      obtain ⟨v, hv⟩ := hcell.resolve_left hne
      rw [show MetricValue.parse text = .ok v from hv]
      exact ⟨_, bind_eq_ok_iff.2 ⟨entries, hentries, rfl⟩⟩

theorem firstNoValue_cons_iff {first : String × String} {e : ValueError} :
    FirstNoValue (first :: cells) column e ↔
      (first.1 = column ∧ first.2 ≠ "" ∧ MetricValue.parse first.2 = .error e) ∨
        (IsCell first.2 ∧ FirstNoValue cells column e) := by
  rw [FirstNoValue, exists_split_cons_iff]
  refine or_congr (and_iff_right (List.forall_mem_nil _)) ?_
  simp only [FirstNoValue, List.forall_mem_cons]
  constructor
  · rintro ⟨before, bad, after, hsplit, ⟨hfirst, hbefore⟩, hbad⟩
    exact ⟨hfirst, before, bad, after, hsplit, hbefore, hbad⟩
  · rintro ⟨hfirst, before, bad, after, hsplit, hbefore, hbad⟩
    exact ⟨before, bad, after, hsplit, ⟨hfirst, hbefore⟩, hbad⟩

theorem valuesOf_eq_error_iff {problem : ImportError} :
    valuesOf policy cells = .error problem ↔
      ∃ column e, FirstNoValue cells column e ∧ problem = .value column policy e := by
  induction cells with
  | nil =>
    constructor
    · intro h; cases h
    · rintro ⟨_, _, h, -⟩
      exact absurd h not_exists_split_nil
  | cons cell rest ih =>
    obtain ⟨column, text⟩ := cell
    simp only [firstNoValue_cons_iff]
    rw [valuesOf]
    split
    · next hempty =>
      have hcell : IsCell text := .inl hempty
      simp only [ih, hcell, not_not_intro hempty, false_and, and_false, true_and, false_or]
    · next hne =>
      split
      · next e he =>
        have hcell : ¬ IsCell text := by
          rintro (hempty | ⟨v, hv⟩)
          · exact hne hempty
          · rw [he] at hv
            cases hv
        simp [hcell, hne, he, eq_comm]
      · next v hv =>
        have hcell : IsCell text := .inr ⟨v, hv⟩
        simp only [bind_eq_error_iff, pure_ne_error, and_false, exists_false, or_false, ih, hcell,
          hv, reduceCtorEq, true_and, false_or]

/-! ## Rows -/

/-- The texts of a record behind the headings. -/
structure Line where
  policy : String
  cells : List String

/-- The record has a field for the policy and one for each column, and of these each
    is empty or a value. -/
structure IsLine (columns : List String) (record : Record) (line : Line) : Prop where
  fields : record.fields = (line.policy :: line.cells).map Text.utf8
  width : line.cells.length = columns.length
  cells : ∀ text ∈ line.cells, IsCell text

/-- The row has the policy of the line, and in each column the value of the last field
    under it that is not empty. -/
structure IsRow (columns : List String) (line : Line) (row : Row) : Prop where
  policy : row.policy = line.policy
  values : Shows (columns.zip line.cells) row.get?

/-- What is wrong with a record behind the headings, of which there are `number`
    before it. -/
inductive RecordFault (file : Bytes) (columns : List String) (number : Nat) (record : Record) :
    ImportError → Prop
  | width : record.fields.length ≠ columns.length + 1 →
      RecordFault file columns number record (.record number (.unequal (number + 1)
        (Position.of file record.source) record.fields.length (columns.length + 1)))
  | noText {field byte : Nat} : record.fields.length = columns.length + 1 →
      FirstNoText record.fields field byte →
      RecordFault file columns number record (.record number (.notText (number + 1)
        (Position.of file record.source) field byte))
  | noValue (line : Line) {column : String} {problem : ValueError} :
      record.fields = (line.policy :: line.cells).map Text.utf8 →
      line.cells.length = columns.length →
      FirstNoValue (columns.zip line.cells) column problem →
      RecordFault file columns number record (.value column line.policy problem)

variable {line : Line} {row : Row}

/-- A line has only one row. -/
theorem IsRow.unique {other : Row} (h : IsRow columns line row) (h' : IsRow columns line other) :
    row = other := by
  have hvalues : row.values = other.values := NameMap.ext_get? (h.values.unique h'.values)
  have hpolicy : row.policy = other.policy := h.policy.trans h'.policy.symm
  cases row
  cases other
  cases hvalues
  cases hpolicy
  rfl

/-- Every value of the row is in a column. -/
theorem IsRow.covered (h : IsRow columns line row) :
    ∀ name ∈ row.values.names, name ∈ columns := by
  intro name hname
  obtain ⟨v, hv⟩ := Option.isSome_iff_exists.1 (NameMap.mem_names_iff.1 hname)
  obtain ⟨text, ⟨before, after, hsplit, -⟩, -⟩ := (h.values.some_iff name v).1 hv
  have hmem : (name, text) ∈ columns.zip line.cells := by
    rw [hsplit]
    exact List.mem_append_right _ List.mem_cons_self
  exact (List.of_mem_zip hmem).1

/-- In a line every text behind the policy is in a column. -/
theorem forall_mem_zip_iff {texts : List String} (h : texts.length = columns.length)
    {P : String → Prop} : (∀ cell ∈ columns.zip texts, P cell.2) ↔ ∀ text ∈ texts, P text := by
  rw [← List.forall_mem_map (f := Prod.snd), List.map_snd_zip (Nat.le_of_eq h)]

theorem isRow_of_valuesOf {entries : List (String × MetricValue)}
    (h : valuesOf line.policy (columns.zip line.cells) = .ok entries) :
    IsRow columns line ⟨line.policy, .ofList entries⟩ :=
  ⟨rfl, (shows_of_valuesOf h).2⟩

/-- Every line has a row. -/
theorem IsLine.exists_row (h : IsLine columns record line) : ∃ row, IsRow columns line row := by
  obtain ⟨entries, hentries⟩ :=
    exists_valuesOf line.policy ((forall_mem_zip_iff h.width).2 h.cells)
  exact ⟨_, isRow_of_valuesOf hentries⟩

theorem rowOf_eq_ok_iff (line : Line) : rowOf columns number (line.policy :: line.cells) = .ok row ↔
    (∀ cell ∈ columns.zip line.cells, IsCell cell.2) ∧ IsRow columns line row := by
  simp only [rowOf, bind_eq_ok_iff, pure_eq_ok_iff]
  constructor
  · rintro ⟨entries, hentries, rfl⟩
    exact ⟨(shows_of_valuesOf hentries).1, isRow_of_valuesOf hentries⟩
  · rintro ⟨hcells, hrow⟩
    obtain ⟨entries, hentries⟩ := exists_valuesOf line.policy hcells
    exact ⟨entries, hentries, (isRow_of_valuesOf hentries).unique hrow⟩

theorem rowOf_eq_error_iff (line : Line) {problem : ImportError} :
    rowOf columns number (line.policy :: line.cells) = .error problem ↔
      ∃ column e, FirstNoValue (columns.zip line.cells) column e ∧
        problem = .value column line.policy e := by
  simp only [rowOf, bind_eq_error_iff, pure_ne_error, and_false, exists_false, or_false,
    valuesOf_eq_error_iff]

/-- A record of as many texts as there are headings has those of a line. -/
theorem exists_line_iff {texts : List String} (h : record.fields = texts.map Text.utf8) :
    record.fields.length = columns.length + 1 ↔
      ∃ line : Line, texts = line.policy :: line.cells ∧ line.cells.length = columns.length := by
  rw [h, List.length_map]
  constructor
  · intro hwidth
    obtain ⟨policy, cells, rfl⟩ := List.exists_cons_of_length_eq_add_one hwidth
    exact ⟨⟨policy, cells⟩, rfl, Nat.succ.inj hwidth⟩
  · rintro ⟨line, rfl, hwidth⟩
    rw [List.length_cons, hwidth]

/-- **A record is read as a row exactly if it is a line**, and as the row of it. -/
theorem rowOfRecord_eq_ok_iff : rowOfRecord file columns number record = .ok row ↔
    ∃ line, IsLine columns record line ∧ IsRow columns line row := by
  simp only [rowOfRecord, bind_eq_ok_iff, mapError_eq_ok_iff, texts_of_width]
  constructor
  · rintro ⟨texts, htexts, hrow⟩
    split at htexts
    · next hlength =>
      have hfields := texts_eq_ok_iff.1 htexts
      obtain ⟨line, rfl, hwidth⟩ := (exists_line_iff hfields).1 hlength
      obtain ⟨hcells, hrow⟩ := (rowOf_eq_ok_iff line).1 hrow
      exact ⟨line, ⟨hfields, hwidth, (forall_mem_zip_iff hwidth).1 hcells⟩, hrow⟩
    · cases htexts
  · rintro ⟨line, hline, hrow⟩
    have hlength := (exists_line_iff hline.fields).2 ⟨line, rfl, hline.width⟩
    refine ⟨line.policy :: line.cells, ?_, (rowOf_eq_ok_iff line).2 ⟨?_, hrow⟩⟩
    · rw [if_pos hlength, texts_eq_ok_iff, hline.fields]
    · exact (forall_mem_zip_iff hline.width).2 hline.cells

/-- **A record is refused exactly for its fault.** -/
theorem rowOfRecord_eq_error_iff {problem : ImportError} :
    rowOfRecord file columns number record = .error problem ↔
      RecordFault file columns number record problem := by
  simp only [rowOfRecord, bind_eq_error_iff, mapError_eq_error_iff, mapError_eq_ok_iff,
    texts_of_width]
  by_cases hlength : record.fields.length = columns.length + 1
  · simp only [if_pos hlength, texts_eq_error_iff, texts_eq_ok_iff]
    constructor
    · rintro (⟨_, ⟨field, byte, hfield, rfl⟩, rfl⟩ | ⟨texts, hfields, hrow⟩)
      · exact .noText hlength hfield
      · obtain ⟨line, rfl, hwidth⟩ := (exists_line_iff hfields).1 hlength
        obtain ⟨column, e, hvalue, rfl⟩ := (rowOf_eq_error_iff line).1 hrow
        exact .noValue line hfields hwidth hvalue
    · rintro (hother | ⟨-, hfield⟩ | ⟨line, hfields, -, hvalue⟩)
      · exact absurd hlength hother
      · exact .inl ⟨_, ⟨_, _, hfield, rfl⟩, rfl⟩
      · exact .inr ⟨_, hfields, (rowOf_eq_error_iff line).2 ⟨_, _, hvalue, rfl⟩⟩
  · simp only [if_neg hlength, reduceCtorEq, false_and, exists_false, or_false,
      Except.error.injEq, exists_eq_left']
    constructor
    · rintro rfl
      exact .width hlength
    · rintro (- | ⟨hsame, -⟩ | ⟨line, hfields, hwidth, -⟩)
      · rfl
      · exact absurd hsame hlength
      · exact absurd ((exists_line_iff hfields).2 ⟨line, rfl, hwidth⟩) hlength

/-! ## All records -/

theorem rowsOfRecords_eq_ok_iff_lines {all : List Record} {rows : List Row} :
    rowsOfRecords file columns number all = .ok rows ↔
      ∃ lines, List.Forall₂ (IsLine columns) all lines ∧
        List.Forall₂ (IsRow columns) lines rows := by
  induction all generalizing number rows with
  | nil =>
    constructor
    · rintro ⟨⟩
      exact ⟨[], .nil, .nil⟩
    · rintro ⟨lines, hlines, hrows⟩
      cases hlines
      cases hrows
      rfl
  | cons record rest ih =>
    simp only [rowsOfRecords, bind_eq_ok_iff, pure_eq_ok_iff, rowOfRecord_eq_ok_iff, ih]
    constructor
    · rintro ⟨row, ⟨line, hline, hrow⟩, others, ⟨lines, hlines, hothers⟩, rfl⟩
      exact ⟨line :: lines, .cons hline hlines, .cons hrow hothers⟩
    · rintro ⟨lines, hlines, hrows⟩
      obtain _ | ⟨hline, hlines⟩ := hlines
      obtain _ | ⟨hrow, hothers⟩ := hrows
      exact ⟨_, ⟨_, hline, hrow⟩, _, ⟨_, hlines, hothers⟩, rfl⟩

/-- The first record that is no line decides. -/
theorem rowsOfRecords_eq_error_iff {all : List Record} {problem : ImportError} :
    rowsOfRecords file columns number all = .error problem ↔
      ∃ before bad after, all = before ++ bad :: after ∧
        (∃ lines, List.Forall₂ (IsLine columns) before lines) ∧
        RecordFault file columns (number + before.length) bad problem := by
  induction all generalizing number with
  | nil => exact iff_of_false nofun not_exists_split_nil
  | cons record rest ih =>
    rw [exists_split_cons_iff]
    simp only [rowsOfRecords, bind_eq_error_iff, pure_ne_error, and_false, exists_false, or_false,
      rowOfRecord_eq_error_iff, rowOfRecord_eq_ok_iff, ih]
    refine or_congr (and_iff_right ⟨[], .nil⟩).symm ?_
    constructor
    · rintro ⟨row, ⟨line, hline, -⟩, before, bad, after, rfl, ⟨lines, hlines⟩, hfault⟩
      refine ⟨before, bad, after, rfl, ⟨line :: lines, .cons hline hlines⟩, ?_⟩
      rwa [List.length_cons, Nat.add_comm before.length 1, ← Nat.add_assoc]
    · rintro ⟨before, bad, after, rfl, ⟨_, _ | ⟨hline, hlines⟩⟩, hfault⟩
      obtain ⟨row, hrow⟩ := hline.exists_row
      rw [List.length_cons, Nat.add_comm before.length 1, ← Nat.add_assoc] at hfault
      exact ⟨row, ⟨_, hline, hrow⟩, before, bad, after, rfl, ⟨_, hlines⟩, hfault⟩

end PolicyBench.Csv
