/-
  PolicyBench — the summary.

  The summary shows the table with aligned columns, policies on the left and
  values on the right, and below it the comparison, if there is one.

  * `columnWidths`, `policyWidth` are the widths: the greatest number of bytes of
    a text in the column, so that no text has more characters than its column;
  * `tableLines` are the lines of the table, `comparisonLines` those of the
    comparison;
  * `summary` is the whole text, each line ending with a line feed;
  * `summaryPieces` are the pieces in which it is written.  A text cannot be filled
    to more than `maxWidth` characters, so a table with a wider column breaks the
    writing off: `Written.ofPieces` is what there is of it then.
-/
import PolicyBench.Comparison
import PolicyBench.Table.Basic
import PolicyBench.Text.Aligned

namespace PolicyBench

open Text (padEnd padStart)

/-! ## Widths -/

/-- The greatest number of bytes of a text. -/
def widest (texts : List String) : Nat := (texts.map String.utf8ByteSize).foldr max 0

theorem le_widest {texts : List String} {s : String} (h : s ∈ texts) :
    s.utf8ByteSize ≤ widest texts := by
  unfold widest
  induction texts with
  | nil => cases h
  | cons t ts ih =>
    simp only [List.map_cons, List.foldr_cons]
    rcases List.mem_cons.1 h with rfl | h
    · exact Nat.le_max_left ..
    · exact Nat.le_trans (ih h) (Nat.le_max_right ..)

/-! ## The table -/

/-- The heading of the policies. -/
def policyHeading : String := "policy"

/-- What stands for an absent value. -/
def absentText : String := "-"

/-- The text of a row in a column. -/
def cellText (row : Row) (column : String) : String :=
  ((row.get? column).map MetricValue.text).getD absentText

/-- The width of the policies. -/
def policyWidth (table : Table) : Nat :=
  widest (policyHeading :: table.rows.map Row.policy)

/-- The width of a column. -/
def columnWidth (table : Table) (column : String) : Nat :=
  widest (column :: table.rows.map fun row => cellText row column)

/-- The widths of the columns, in order. -/
def columnWidths (table : Table) : List Nat := table.columns.map (columnWidth table)

/-- A line of the table: a policy, and a text for each column. -/
def tableLine (policyWidth : Nat) (widths : List Nat) (policy : String) (texts : List String) :
    String :=
  padEnd policyWidth policy ++ "  " ++ "  ".intercalate (List.zipWith padStart widths texts)

/-- The lines of the table: the headings, then one line for each row. -/
def tableLines (table : Table) : List String :=
  let line := tableLine (policyWidth table) (columnWidths table)
  line policyHeading table.columns ::
    table.rows.map fun row => line row.policy (table.columns.map (cellText row))

/-! ## The comparison -/

/-- A percentage with two decimal places. -/
def percentText (x : Binary64) : String := x.writeFixed 2 ++ "%"

/-- The lines of an entry. -/
def entryLines (entry : ComparisonEntry) : List String :=
  [entry.policy ++ ":"] ++
    (entry.cycleImprovement.map ("  Cycle reduction: " ++ percentText ·)).toList ++
    (entry.conflictReduction.map ("  Conflict reduction: " ++ percentText ·)).toList

/-- The lines of a comparison. -/
def comparisonLines (comparison : Comparison) : List String :=
  ["", "=== Improvements vs Baseline (" ++ comparison.baseline ++ ") ==="] ++
    (if comparison.entries = [] then ["No policies could be compared"] else []) ++
    comparison.entries.flatMap entryLines

/-- The summary of a table and its comparison. -/
def summary (table : Table) (comparison : Option Comparison) : String :=
  String.join ((["=== Summary ==="] ++ tableLines table ++
    (comparison.map comparisonLines).getD []).map (· ++ "\n"))

/-! ## Writing -/

/-- The greatest width to which a text can be filled. -/
def maxWidth : Nat := 65535

/-- A text filled to a width, if that can be done. -/
def filled? (fill : Nat → String → String) (width : Nat) (text : String) : Option String :=
  if width ≤ maxWidth then some (fill width text) else none

/-- The pieces of a line of the table. -/
def linePieces (policyWidth : Nat) (widths : List Nat) (policy : String) (texts : List String) :
    List (Option String) :=
  filled? padEnd policyWidth policy :: some "  " ::
    (List.zipWith (filled? padStart) widths texts).intersperse (some "  ") ++ [some "\n"]

/-- The pieces of the table. -/
def tablePieces (table : Table) : List (Option String) :=
  let line := linePieces (policyWidth table) (columnWidths table)
  line policyHeading table.columns ++
    table.rows.flatMap fun row => line row.policy (table.columns.map (cellText row))

/-- The pieces of the summary. -/
def summaryPieces (table : Table) (comparison : Option Comparison) : List (Option String) :=
  some "=== Summary ===\n" :: tablePieces table ++
    ((comparison.map comparisonLines).getD []).map fun line => some (line ++ "\n")

/-- What is written of a text. -/
structure Written where
  text : String
  /-- whether it is all of it -/
  complete : Bool
  deriving DecidableEq

/-- Writes pieces in their order, up to one that cannot be had. -/
def Written.ofPieces : List (Option String) → Written
  | [] => ⟨"", true⟩
  | none :: _ => ⟨"", false⟩
  | some piece :: rest =>
    let later := ofPieces rest
    ⟨piece ++ later.text, later.complete⟩

end PolicyBench
