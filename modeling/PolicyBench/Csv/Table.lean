/-
  PolicyBench — tables as comma-separated values.

  A table is written with one record for its headings, the first being that of
  the policies, and one for each row; an absent value is an empty field.
  Reading builds the table again.

  * `encode` is the file of a table, `decode` the table of a file, and
    `decodeRecords` that of its records;
  * `ImportError` says why a file gives no table: the first problem in the order
    of the file decides, and repeated policies come last;
  * `write` stores the file of a table; a device that refuses it is noticed when
    a buffer is full (`ExportError`).
-/
import PolicyBench.Csv.Record
import PolicyBench.FileSystem
import PolicyBench.Table.Basic

namespace PolicyBench.Csv

open Text (Bytes)

/-- The heading of the column that holds the policies. -/
def policyColumn : String := "policy"

/-! ## Writing -/

/-- The field of a value that may be absent. -/
def cell (value : Option MetricValue) : String := (value.map MetricValue.text).getD ""

/-- The fields of the headings. -/
def headingFields (table : Table) : List String := policyColumn :: table.columns

/-- The fields of a row. -/
def rowFields (columns : List String) (row : Row) : List String :=
  row.policy :: columns.map fun column => cell (row.get? column)

/-- A record of texts. -/
def encodeTexts (fields : List String) : Bytes := encodeRecord (fields.map Text.utf8)

/-- The file of a table. -/
def encode (table : Table) : Bytes :=
  encodeTexts (headingFields table) ++
    table.rows.flatMap fun row => encodeTexts (rowFields table.columns row)

/-- Why a table was not stored. -/
inductive ExportError where
  | opening (output : Path) (problem : FileError)
  | headings (problem : FileError)
  | row (policy : String) (problem : FileError)
  /-- everything was written into the last buffer, which could not be emptied -/
  | flushing (problem : FileError)
  deriving DecidableEq, Repr

/-- The problem in words, the outermost first. -/
def ExportError.messages : ExportError → List String
  | opening output problem =>
    ["Unable to create output file " ++ Text.quoted output.text, problem.message]
  | headings problem => ["Unable to write header", problem.message]
  | row policy problem =>
    ["Unable to write row for policy " ++ Text.quoted policy, problem.message]
  | flushing problem => ["Unable to flush output file", problem.message]

/-- The bytes that are gathered before they are handed to the file. -/
def bufferSize : Nat := 8192

/-- The step in which a failure is noticed if the file accepts no more than the
    first `accepted` bytes: that which needs the next buffer, or the end. -/
def failingStep (table : Table) (accepted : Nat) (problem : FileError) : ExportError :=
  let limit := (accepted / bufferSize + 1) * bufferSize
  let rec rowAt (written : Nat) : List Row → ExportError
    | [] => .flushing problem
    | row :: rest =>
      let written := written + (encodeTexts (rowFields table.columns row)).length
      if limit < written then .row row.policy problem else rowAt written rest
  let written := (encodeTexts (headingFields table)).length
  if limit < written then .headings problem else rowAt written table.rows

/-- What a failed attempt to store the file of a table means for the table. -/
def ExportError.ofWrite (table : Table) (output : Path) : WriteError → ExportError
  | .opening problem => .opening output problem
  | .writing accepted problem => failingStep table accepted problem

/-- Stores a table. -/
def write (fs : FileSystem) (table : Table) (output : Path) :
    Except ExportError Unit × FileSystem :=
  let (outcome, fs) := fs.write output (encode table)
  (outcome.mapError (ExportError.ofWrite table output), fs)

/-! ## Reading -/

/-- Why a record cannot be used. -/
inductive RecordError where
  /-- the file cannot be read -/
  | reading (problem : FileError)
  /-- the record has not as many fields as the headings -/
  | unequal (index : Nat) (position : Position) (found expected : Nat)
  /-- a field is no UTF-8 text from the given byte on -/
  | notText (index : Nat) (position : Position) (field byte : Nat)
  deriving DecidableEq, Repr

/-- The problem in words. -/
def RecordError.message : RecordError → String
  | reading problem => problem.message
  | unequal index position found expected =>
    "CSV error: record " ++ Nat.repr index ++ " (line: " ++ Nat.repr position.line ++
    ", byte: " ++ Nat.repr position.byte ++ "): found record with " ++ Nat.repr found ++
    " fields, but the previous record has " ++ Nat.repr expected ++ " fields"
  | notText index position field byte =>
    "CSV parse error: record " ++ Nat.repr index ++ " (line " ++ Nat.repr position.line ++
    ", field: " ++ Nat.repr field ++ ", byte: " ++ Nat.repr position.byte ++
    "): invalid utf-8: invalid UTF-8 in field " ++ Nat.repr field ++ " near byte index " ++
    Nat.repr byte

/-- Why a file gives no table. -/
inductive ImportError where
  | opening (input : Path) (problem : FileError)
  | headings (problem : RecordError)
  /-- the first heading is not that of the policies -/
  | noPolicies (found : Option String)
  | record (number : Nat) (problem : RecordError)
  /-- the record has no field at all -/
  | noPolicy (number : Nat)
  | value (column policy : String) (problem : ValueError)
  | malformed (problem : TableError)
  deriving DecidableEq, Repr

/-- The problem in words, the outermost first. -/
def ImportError.messages : ImportError → List String
  | opening input problem => ["Unable to open " ++ Text.quoted input.text, problem.message]
  | headings problem => ["Unable to read header", problem.message]
  | noPolicies found =>
    ["Expected first column to be " ++ Text.quoted policyColumn ++ ", found " ++
      Text.quotedOption found]
  | record number problem => ["Unable to read record #" ++ Nat.repr number, problem.message]
  | noPolicy number => ["Record #" ++ Nat.repr number ++ " has no policy"]
  | value column policy problem =>
    ["Unable to parse " ++ Text.quoted column ++ " for policy " ++ Text.quoted policy,
      problem.message]
  | malformed problem => ["Malformed table", problem.message]

/-- The texts of fields, or the number of the first that is none and the byte at
    which it stops being text. -/
def textsOf (number : Nat) : List Bytes → Except (Nat × Nat) (List String)
  | [] => .ok []
  | field :: rest =>
    match Text.ofUtf8? field with
    | none => .error (number, Text.validLength field)
    | some text => do return text :: (← textsOf (number + 1) rest)

/-- The texts of a record, which must have `width` fields if that is given. -/
def Record.texts (file : Bytes) (index : Nat) (width : Option Nat) (record : Record) :
    Except RecordError (List String) :=
  let position := Position.of file record.source
  match width.filter (· ≠ record.fields.length) with
  | some expected => .error (.unequal index position record.fields.length expected)
  | none =>
    (textsOf 0 record.fields).mapError fun e => .notText index position e.1 e.2

/-- The values of a row: those of its fields that are not empty.  Of several
    under one heading the last counts. -/
def valuesOf (policy : String) : List (String × String) →
    Except ImportError (List (String × MetricValue))
  | [] => .ok []
  | (column, field) :: rest =>
    if field = "" then valuesOf policy rest
    else
      match MetricValue.parse field with
      | .error problem => .error (.value column policy problem)
      | .ok value => do return (column, value) :: (← valuesOf policy rest)

/-- The row of the fields of a record. -/
def rowOf (columns : List String) (number : Nat) : List String → Except ImportError Row
  | [] => .error (.noPolicy number)
  | policy :: cells => do
    let values ← valuesOf policy (columns.zip cells)
    return ⟨policy, .ofList values⟩

/-- The row of a record behind the headings; `number` is how many there are
    before it. -/
def rowOfRecord (file : Bytes) (columns : List String) (number : Nat) (record : Record) :
    Except ImportError Row := do
  let fields ← (record.texts file (number + 1) (some (columns.length + 1))).mapError
    (.record number)
  rowOf columns number fields

/-- The rows of the records behind the headings. -/
def rowsOfRecords (file : Bytes) (columns : List String) (number : Nat) :
    List Record → Except ImportError (List Row)
  | [] => .ok []
  | record :: rest => do
    let row ← rowOfRecord file columns number record
    return row :: (← rowsOfRecords file columns (number + 1) rest)

/-- The table of the records of a file. -/
def decodeRecords (file : Bytes) (all : List Record) : Except ImportError Table := do
  let headings ←
    match all.head? with
    | none => pure []
    | some record => (record.texts file 0 none).mapError .headings
  if headings.head? ≠ some policyColumn then .error (.noPolicies headings.head?)
  let columns := headings.tail
  let rows ← rowsOfRecords file columns 0 all.tail
  (Table.ofRows columns rows).mapError .malformed

/-- The table of a file. -/
def decode (file : Bytes) : Except ImportError Table := decodeRecords file (records file)

/-- The table that a stored file gives. -/
def read (fs : FileSystem) (input : Path) : Except ImportError Table :=
  match fs.read input with
  | .error (.opening problem) => .error (.opening input problem)
  | .error (.reading problem) => .error (.headings (.reading problem))
  | .ok file => decode file

end PolicyBench.Csv
