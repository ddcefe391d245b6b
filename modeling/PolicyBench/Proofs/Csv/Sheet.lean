/-
  PolicyBench — files read as tables.

  A file is read as a table exactly if its first record is the heading of the policies
  and those of the columns, every other record is a line, and no two lines have the
  same policy.  The table has the columns in their order, and a row for each line.
  Else the first problem in the order of the file is told, and a policy that comes
  again only if there is no other.

  This holds whatever the records are, so it does not depend on how a file is cut into
  them.  That each has as many fields as the headings is checked, so none is without a
  policy; and what a row holds is under a heading, so no value is in a column that is
  not there.

  * `Sheet`: what is asked of the records, and `ImportFault`: what is wrong with them;
  * `decodeRecords_eq_ok_iff_sheet`, `decodeRecords_eq_error_iff`: records are read as
    a table in the one case, and refused in the other;
  * `read_sheet`: the same for files.
-/
import PolicyBench.Proofs.Csv.Rows

namespace PolicyBench.Csv

open Text (Bytes)

variable {file : Bytes} {all : List Record} {columns : List String} {lines : List Line}

/-- The first record holds the headings, and the others are lines. -/
inductive Sheet (columns : List String) (lines : List Line) : List Record → Prop
  | mk {head : Record} {rest : List Record} :
      head.fields = (policyColumn :: columns).map Text.utf8 →
      List.Forall₂ (IsLine columns) rest lines → Sheet columns lines (head :: rest)

/-- What is wrong with the records of a file. -/
inductive ImportFault (file : Bytes) : List Record → ImportError → Prop
  | empty : ImportFault file [] (.noPolicies none)
  | headings {head : Record} {rest : List Record} {field byte : Nat} :
      FirstNoText head.fields field byte →
      ImportFault file (head :: rest)
        (.headings (.notText 0 (Position.of file head.source) field byte))
  | noPolicies {head : Record} {rest : List Record} {texts : List String} :
      head.fields = texts.map Text.utf8 → texts.head? ≠ some policyColumn →
      ImportFault file (head :: rest) (.noPolicies texts.head?)
  /-- all records before this one are lines -/
  | record {head bad : Record} {before after : List Record} {columns : List String}
      {lines : List Line} {problem : ImportError} :
      Sheet columns lines (head :: before) → RecordFault file columns before.length bad problem →
      ImportFault file (head :: (before ++ bad :: after)) problem
  /-- all records are lines -/
  | repeated {all : List Record} {columns : List String} {lines : List Line} {policy : String}
      {before after : List String} :
      Sheet columns lines all → lines.map Line.policy = before ++ policy :: after →
      before.Nodup → policy ∈ before →
      ImportFault file all (.malformed (.repeatedPolicy policy))

/-! ## Rows of lines -/

section
variable {rows : List Row} (h : List.Forall₂ (IsRow columns) lines rows)
include h

theorem policies_of_rows : rows.map (·.policy) = lines.map Line.policy := by
  induction h with
  | nil => rfl
  | cons hrow _ ih => rw [List.map_cons, List.map_cons, hrow.policy, ih]

theorem covered_of_rows : ∀ row ∈ rows, ∀ name ∈ row.values.names, name ∈ columns := by
  induction h with
  | nil => exact List.forall_mem_nil _
  | cons hrow _ ih => exact List.forall_mem_cons.2 ⟨hrow.covered, ih⟩

/-- The rows of lines make a table exactly if their policies are distinct. -/
theorem exists_ofRows_of_rows :
    (∃ table, Table.ofRows columns rows = .ok table) ↔ (lines.map Line.policy).Nodup := by
  rw [Table.exists_ofRows_eq_ok_iff, and_iff_left (covered_of_rows h), ← policies_of_rows h]
  exact List.pairwise_map.symm

end

/-- The rows of lines are read from their records. -/
theorem exists_rows {rest : List Record} (h : List.Forall₂ (IsLine columns) rest lines) :
    ∃ rows, List.Forall₂ (IsRow columns) lines rows := by
  induction h with
  | nil => exact ⟨[], .nil⟩
  | cons hline _ ih =>
    obtain ⟨row, hrow⟩ := hline.exists_row
    obtain ⟨rows, hrows⟩ := ih
    exact ⟨row :: rows, .cons hrow hrows⟩

/-! ## Tables -/

/-- Records are read as a table exactly if they are a sheet in which no policy comes
    twice, and as the table of its rows. -/
theorem decodeRecords_eq_ok_iff_sheet {table : Table} :
    decodeRecords file all = .ok table ↔ ∃ lines, Sheet table.columns lines all ∧
      (lines.map Line.policy).Nodup ∧ List.Forall₂ (IsRow table.columns) lines table.rows := by
  simp only [decodeRecords_eq_ok_iff, texts_eq_ok_iff, rowsOfRecords_eq_ok_iff_lines]
  constructor
  · rintro ⟨head, hall, hhead, lines, hlines, hrows⟩
    obtain ⟨rest, rfl⟩ := List.head?_eq_some_iff.1 hall
    refine ⟨lines, ⟨hhead, hlines⟩, ?_, hrows⟩
    exact (exists_ofRows_of_rows hrows).1 ⟨table, table.ofRows_columns_rows⟩
  · rintro ⟨lines, ⟨hhead, hlines⟩, -, hrows⟩
    exact ⟨_, rfl, hhead, lines, hlines, hrows⟩

theorem exists_decodeRecords_eq_ok_iff : (∃ table, decodeRecords file all = .ok table) ↔
    ∃ columns lines, Sheet columns lines all ∧ (lines.map Line.policy).Nodup := by
  simp only [decodeRecords_eq_ok_iff_sheet]
  constructor
  · rintro ⟨table, lines, hsheet, hdistinct, -⟩
    exact ⟨table.columns, lines, hsheet, hdistinct⟩
  · rintro ⟨columns, lines, hsheet, hdistinct⟩
    cases hsheet with
    | mk hhead hlines =>
      obtain ⟨rows, hrows⟩ := exists_rows hlines
      obtain ⟨table, htable⟩ := (exists_ofRows_of_rows hrows).2 hdistinct
      obtain ⟨rfl, rfl⟩ := Table.ofRows_eq_ok_iff.1 htable
      exact ⟨table, lines, ⟨hhead, hlines⟩, hdistinct, hrows⟩

/-! ## Problems -/

/-- Behind good headings the other records decide. -/
theorem decodeRecords_of_headings {head : Record} {rest : List Record}
    (h : head.fields = (policyColumn :: columns).map Text.utf8) :
    decodeRecords file (head :: rest) = (do
      let rows ← rowsOfRecords file columns 0 rest
      (Table.ofRows columns rows).mapError .malformed) := by
  unfold decodeRecords
  rw [List.head?_cons]
  dsimp only
  rw [texts_eq_ok_iff.2 h]
  rfl

/-- Headings that are no texts decide. -/
theorem decodeRecords_of_error {head : Record} {rest : List Record} {problem : RecordError}
    (h : head.texts file 0 none = .error problem) :
    decodeRecords file (head :: rest) = .error (.headings problem) := by
  unfold decodeRecords
  rw [List.head?_cons]
  dsimp only
  rw [h]
  rfl

/-- So do others than those of a table. -/
theorem decodeRecords_of_head?_ne {head : Record} {rest : List Record} {texts : List String}
    (h : head.fields = texts.map Text.utf8) (hne : texts.head? ≠ some policyColumn) :
    decodeRecords file (head :: rest) = .error (.noPolicies texts.head?) := by
  unfold decodeRecords
  rw [List.head?_cons]
  dsimp only
  rw [texts_eq_ok_iff.2 h]
  exact if_pos hne

/-- The rows of lines are refused exactly for a policy that comes again. -/
theorem malformed_iff {rows : List Row} (h : List.Forall₂ (IsRow columns) lines rows)
    {problem : ImportError} :
    (Table.ofRows columns rows).mapError .malformed = .error problem ↔
      ∃ before policy after, lines.map Line.policy = before ++ policy :: after ∧ before.Nodup ∧
        policy ∈ before ∧ problem = .malformed (.repeatedPolicy policy) := by
  simp only [mapError_eq_error_iff, Table.ofRows_eq_error_iff_of_covered (covered_of_rows h),
    policies_of_rows h]
  constructor
  · rintro ⟨_, ⟨before, policy, after, hsplit, hdistinct, hmem, rfl⟩, rfl⟩
    exact ⟨before, policy, after, hsplit, hdistinct, hmem, rfl⟩
  · rintro ⟨before, policy, after, hsplit, hdistinct, hmem, rfl⟩
    exact ⟨_, ⟨before, policy, after, hsplit, hdistinct, hmem, rfl⟩, rfl⟩

/-- What is refused has a fault. -/
theorem importFault_of_error {problem : ImportError}
    (h : decodeRecords file all = .error problem) : ImportFault file all problem := by
  cases all with
  | nil => cases h; exact .empty
  | cons head rest =>
    cases htexts : head.texts file 0 none with
    | error e =>
      rw [decodeRecords_of_error htexts] at h
      cases h
      obtain ⟨field, byte, hfield, rfl⟩ := texts_eq_error_iff.1 htexts
      exact .headings hfield
    | ok texts =>
      have hfields := texts_eq_ok_iff.1 htexts
      by_cases hhead : texts.head? = some policyColumn
      · obtain ⟨columns, rfl⟩ := List.head?_eq_some_iff.1 hhead
        rw [decodeRecords_of_headings hfields] at h
        rcases bind_eq_error_iff.1 h with h | ⟨rows, hrows, h⟩
        · obtain ⟨before, bad, after, rfl, ⟨lines, hlines⟩, hfault⟩ :=
            rowsOfRecords_eq_error_iff.1 h
          rw [Nat.zero_add] at hfault
          exact .record ⟨hfields, hlines⟩ hfault
        · obtain ⟨lines, hlines, hrows⟩ := rowsOfRecords_eq_ok_iff_lines.1 hrows
          obtain ⟨before, policy, after, hsplit, hdistinct, hmem, rfl⟩ :=
            (malformed_iff hrows).1 h
          exact .repeated ⟨hfields, hlines⟩ hsplit hdistinct hmem
      · rw [decodeRecords_of_head?_ne hfields hhead] at h
        cases h
        exact .noPolicies hfields hhead

/-- What has a fault is refused for it. -/
theorem ImportFault.refused {problem : ImportError} (h : ImportFault file all problem) :
    decodeRecords file all = .error problem := by
  cases h with
  | empty => rfl
  | headings hfield => exact decodeRecords_of_error (texts_eq_error_iff.2 ⟨_, _, hfield, rfl⟩)
  | noPolicies hfields hhead => exact decodeRecords_of_head?_ne hfields hhead
  | record hsheet hfault =>
    cases hsheet with
    | mk hhead hlines =>
      rw [decodeRecords_of_headings hhead]
      refine bind_eq_error_iff.2 (.inl (rowsOfRecords_eq_error_iff.2 ?_))
      refine ⟨_, _, _, rfl, ⟨_, hlines⟩, ?_⟩
      rwa [Nat.zero_add]
  | repeated hsheet hsplit hdistinct hmem =>
    cases hsheet with
    | mk hhead hlines =>
      obtain ⟨rows, hrows⟩ := exists_rows hlines
      rw [decodeRecords_of_headings hhead]
      refine bind_eq_error_iff.2 (.inr ⟨rows, ?_, ?_⟩)
      · exact rowsOfRecords_eq_ok_iff_lines.2 ⟨_, hlines, hrows⟩
      · exact (malformed_iff hrows).2 ⟨_, _, _, hsplit, hdistinct, hmem, rfl⟩

/-- Records are refused exactly for their first fault. -/
theorem decodeRecords_eq_error_iff {problem : ImportError} :
    decodeRecords file all = .error problem ↔ ImportFault file all problem :=
  ⟨importFault_of_error, ImportFault.refused⟩

/-! ## Files -/

/-- What is looked for and never found: a record without a policy, and a value in a
    column that is not there. -/
def ImportError.Impossible : ImportError → Prop
  | .noPolicy _ | .malformed (.unknownColumn ..) => True
  | _ => False

theorem ImportFault.not_impossible {problem : ImportError} (h : ImportFault file all problem) :
    ¬ problem.Impossible := by
  cases h with
  | record _ hfault => cases hfault <;> exact id
  | empty | headings | noPolicies | repeated => exact id

theorem read_of_content {fs : FileSystem} {input : Path} (h : fs.read input = .ok file) :
    read fs input = decodeRecords file (records file) := by
  unfold read
  rw [h]
  rfl

theorem not_impossible_of_read {fs : FileSystem} {input : Path} {problem : ImportError}
    (h : read fs input = .error problem) : ¬ problem.Impossible := by
  cases hfile : fs.read input with
  | error e =>
    unfold read at h
    rw [hfile] at h
    cases e <;> cases h <;> exact id
  | ok file =>
    rw [read_of_content hfile] at h
    exact (decodeRecords_eq_error_iff.1 h).not_impossible

/-- **Which files are tables, and why others are not.**  A file is read record by
    record, and however it is cut into records, these give a table exactly if they are
    a sheet in which no policy comes twice, and else the first fault is told. -/
theorem read_sheet :
    (∀ fs input file, fs.read input = .ok file →
      read fs input = decodeRecords file (records file)) ∧
    (∀ file all table, decodeRecords file all = .ok table ↔
      ∃ lines, Sheet table.columns lines all ∧ (lines.map Line.policy).Nodup ∧
        List.Forall₂ (IsRow table.columns) lines table.rows) ∧
    (∀ file all, (∃ table, decodeRecords file all = .ok table) ↔
      ∃ columns lines, Sheet columns lines all ∧ (lines.map Line.policy).Nodup) ∧
    (∀ file all problem, decodeRecords file all = .error problem ↔
      ImportFault file all problem) ∧
    ∀ fs input problem, read fs input = .error problem → ¬ problem.Impossible :=
  ⟨fun _ _ _ => read_of_content, fun _ _ _ => decodeRecords_eq_ok_iff_sheet,
    fun _ _ => exists_decodeRecords_eq_ok_iff, fun _ _ _ => decodeRecords_eq_error_iff,
    fun _ _ _ => not_impossible_of_read⟩

/-- Two columns of one name, of which the last value counts, and a policy that comes
    again behind a value that is none. -/
theorem read_sheet_same_headings :
    let good := Text.utf8 "policy,x,x,y\r\na,1,2,\r\n\"b\",3,,4.5\n"
    let bad := Text.utf8 "policy,x\na,1\nb,z\na,2\nc\n"
    let stored (content : Bytes) := (FileSystem.fresh.write ⟨"out.csv"⟩ content).2
    (∃ table, read (stored good) ⟨"out.csv"⟩ = .ok table ∧ table.columns = ["x", "x", "y"] ∧
      (table.rows.map fun row => (row.policy, row.values.entries.map fun e => (e.1, e.2.text))) =
        [("a", [("x", "2")]), ("b", [("x", "3"), ("y", "4.5")])] ∧
      ∃ lines, Sheet table.columns lines (records good) ∧ (lines.map Line.policy).Nodup ∧
        List.Forall₂ (IsRow table.columns) lines table.rows) ∧
    ∃ problem, read (stored bad) ⟨"out.csv"⟩ = .error problem ∧
      problem = .value "x" "b" (.integer "z" .invalidDigit) ∧
      ImportFault bad (records bad) problem ∧ ¬ problem.Impossible := by
  intro good bad stored
  obtain ⟨hread, hok, -, herror, hpossible⟩ := read_sheet
  have hstored (content : Bytes) := hread (stored content) ⟨"out.csv"⟩ content
    (FileSystem.read_write FileSystem.takesFile_fresh_out content).2
  have hgood : ∃ table ∈ (decode good).toOption, table.columns = ["x", "x", "y"] ∧
      (table.rows.map fun row => (row.policy, row.values.entries.map fun e => (e.1, e.2.text))) =
        [("a", [("x", "2")]), ("b", [("x", "3"), ("y", "4.5")])] := by
    decide +kernel
  have hbad : (match decode bad with
      | .error problem => some problem
      | .ok _ => none) = some (.value "x" "b" (.integer "z" .invalidDigit)) := by
    decide +kernel
  constructor
  · obtain ⟨table, htable, hcolumns, htexts⟩ := hgood
    have hdecode := mem_toOption_iff.1 htable
    exact ⟨table, (hstored good).trans hdecode, hcolumns, htexts, (hok _ _ _).1 hdecode⟩
  · split at hbad
    · next problem hdecode =>
      have hproblem := (hstored bad).trans hdecode
      exact ⟨problem, hproblem, Option.some.inj hbad, (herror _ _ _).1 hdecode,
        hpossible _ _ _ hproblem⟩
    · cases hbad

end PolicyBench.Csv
