/-
  PolicyBench — records of comma-separated values.

  A file is a sequence of records, each ended by a line feed or a carriage
  return, and a record a sequence of fields with commas between them.  A field
  that begins with a quote runs to the next quote that stands alone; a doubled
  quote in it stands for one.  Empty lines are no records.

  * `encodeRecord` writes a record, quoting only the fields that need it, and a
    record of one empty field, which would be an empty line;
  * `scan` reads the fields of a record, `records` all records of a file;
  * each `Record` keeps the bytes from which it was read on, so that
    `Position.of` can tell where in the file that was;
  * `length_rest_scan_lt`: reading a record consumes at least one byte.
-/
import PolicyBench.Text.Utf8

namespace PolicyBench.Csv

open Text (Bytes)

/-- Between two fields. -/
def comma : UInt8 := 0x2C

/-- Around a field, and twice for one in it. -/
def quote : UInt8 := 0x22

/-- At the end of a record. -/
def lineFeed : UInt8 := 0x0A

/-- Also at the end of a record. -/
def carriageReturn : UInt8 := 0x0D

/-- Whether a byte ends a record. -/
def endsRecord (b : UInt8) : Bool := b == lineFeed || b == carriageReturn

/-! ## Writing -/

/-- Whether a field has to be quoted. -/
def needsQuotes (field : Bytes) : Bool :=
  field.any fun b => b == comma || b == quote || endsRecord b

/-- A field between quotes, those in it doubled. -/
def quoteField (field : Bytes) : Bytes :=
  quote :: field.flatMap (fun b => if b = quote then [quote, quote] else [b]) ++ [quote]

/-- A field as it is written. -/
def encodeField (field : Bytes) : Bytes :=
  if needsQuotes field then quoteField field else field

/-- A record as it is written, with its line feed. -/
def encodeRecord (fields : List Bytes) : Bytes :=
  (if fields = [[]] then [quote, quote]
    else [comma].intercalate (fields.map encodeField)) ++ [lineFeed]

/-! ## Reading a record -/

/-- Where in a field the reader is. -/
inductive Place where
  /-- before its first byte -/
  | start
  /-- in a part without quotes -/
  | bare
  /-- between quotes -/
  | quoted
  /-- behind a quote that closes the quoted part unless another follows -/
  | closing
  deriving DecidableEq, Repr

/-- What is read from a place on: the rest of the field, the fields after it, and
    the bytes behind the record. -/
structure Scanned where
  field : Bytes
  later : List Bytes
  rest : Bytes

namespace Scanned

/-- With a byte in front of the field. -/
def keep (b : UInt8) (s : Scanned) : Scanned := { s with field := b :: s.field }

/-- With the end of another field in front. -/
def split (s : Scanned) : Scanned := ⟨[], s.field :: s.later, s.rest⟩

/-- All fields. -/
def fields (s : Scanned) : List Bytes := s.field :: s.later

end Scanned

/-- Reads the record from a place on. -/
def scan (place : Place) : Bytes → Scanned
  | [] => ⟨[], [], []⟩
  | b :: bs =>
    if place = .quoted then
      if b = quote then scan .closing bs else (scan .quoted bs).keep b
    else if b = quote ∧ place = .start then scan .quoted bs
    else if b = quote ∧ place = .closing then (scan .quoted bs).keep b
    else if b = comma then (scan .start bs).split
    else if endsRecord b then ⟨[], [], bs⟩
    else (scan .bare bs).keep b

theorem length_rest_scan_le (place : Place) (bs : Bytes) :
    (scan place bs).rest.length ≤ bs.length := by
  fun_induction scan place bs <;>
    simp_all only [Scanned.keep, Scanned.split, List.length_cons, List.length_nil] <;> omega

/-- A byte is consumed if there is one. -/
theorem length_rest_scan_lt (place : Place) (b : UInt8) (bs : Bytes) :
    (scan place (b :: bs)).rest.length < (b :: bs).length := by
  have h (p : Place) := length_rest_scan_le p bs
  have := h .quoted; have := h .closing; have := h .start; have := h .bare
  rw [scan]
  repeat' split
  all_goals simp only [Scanned.keep, Scanned.split, List.length_cons]; omega

/-! ## Reading a file -/

/-- A record of a file. -/
structure Record where
  fields : List Bytes
  /-- the bytes of the file from where reading the record began -/
  source : Bytes

/-- The records from a place between records on; `source` is where the next one
    begins, blank lines and a byte order mark included. -/
def recordsFrom (source bs : Bytes) : List Record :=
  match h : bs.dropWhile endsRecord with
  | [] => []
  | b :: rest =>
    have : (b :: rest).length ≤ bs.length := h ▸ (List.dropWhile_sublist endsRecord).length_le
    let s := scan .start (b :: rest)
    ⟨s.fields, source⟩ :: recordsFrom s.rest s.rest
termination_by bs.length
decreasing_by
  have := length_rest_scan_lt .start b rest
  omega

/-- The bytes behind a byte order mark, if the file begins with one. -/
def afterByteOrderMark : Bytes → Bytes
  | 0xEF :: 0xBB :: 0xBF :: bs => bs
  | bs => bs

/-- The records of a file. -/
def records (file : Bytes) : List Record := recordsFrom file (afterByteOrderMark file)

/-! ## Positions -/

/-- A place in a file. -/
structure Position where
  /-- one more than the line feeds before it -/
  line : Nat
  /-- the bytes before it -/
  byte : Nat
  deriving DecidableEq, Repr

/-- The place in `file` from which on it reads `source`. -/
def Position.of (file source : Bytes) : Position :=
  let before := file.take (file.length - source.length)
  ⟨before.count lineFeed + 1, before.length⟩

end PolicyBench.Csv
