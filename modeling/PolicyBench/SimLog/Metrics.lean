/-
  PolicyBench — the metrics of a simulator log.

  A log reports scalar metrics anywhere in its text, and further metrics in
  statistics blocks.  What is not recognised is not reported; reading a log
  never fails.

  * `Scalar` and `Block` describe what is looked for; `scalars` and `blocks`
    list it;
  * `Scalar.read`, `Block.read` find one of them, `read` all of a log;
  * `LogReader` is any way to read metrics from a text: `read` is the one for
    simulator logs, `lengthReader` one that measures the text.
-/
import PolicyBench.Logged
import PolicyBench.SimLog.Scan
import PolicyBench.Text.Lines

namespace PolicyBench

/-- The name of the metric that counts cycles. -/
def totalCycles : String := "total_cycles"

/-- The name of the metric that counts bank conflicts. -/
def totalConflicts : String := "total_conflicts"

/-- A way to read metrics from the text of a log. -/
abbrev LogReader := String → Logged Metrics

namespace SimLog

/-- A metric given by a label and a number. -/
structure Scalar where
  name : String
  /-- the labels under which it may stand -/
  labels : List String

/-- Metrics given by the lines between a header and an empty line. -/
structure Block where
  header : String
  /-- what is put in front of the names in the block -/
  family : String

/-- The simulator calls its cycle counter differently from the metric; either
    label is good, and the first in the text wins. -/
def scalars : List Scalar :=
  [⟨totalCycles, ["memory_system_cycles", "total_cycles"]⟩, ⟨totalConflicts, ["total_conflicts"]⟩]

/-- The statistics blocks of a simulator log. -/
def blocks : List Block :=
  [⟨"KV Cache Policy Statistics:", "kv_"⟩, ⟨"Bank Conflict Statistics:", "conflict_"⟩]

/-- The count that digits stand for; digits without one are reported and ignored. -/
def readValue (name : String) (digits : List Char) : Logged (Option UInt64) :=
  match readCount digits with
  | .ok n => pure (some n)
  | .error problem => do
    .report (.unrepresentable name (String.ofList digits) problem)
    return none

/-- The count of a scalar metric, if the log has one. -/
def Scalar.read (scalar : Scalar) (cs : List Char) : Logged (Option UInt64) :=
  match labelled? (scalar.labels.map String.toList) cs with
  | some digits => readValue scalar.name digits
  | none => do
    .report (.metricNotFound scalar.name)
    return none

/-- The name of a metric of the block. -/
def Block.metricName (block : Block) (word : List Char) : String :=
  block.family ++ String.ofList word

/-- Adds the metrics of the lines to `metrics`; one that is there stays. -/
def Block.readLines (block : Block) (metrics : Metrics) : List (List Char) → Logged Metrics
  | [] => pure metrics
  | line :: rest =>
    match lineEntry? line with
    | none => block.readLines metrics rest
    | some (word, digits) => do
      match ← readValue (block.metricName word) digits with
      | some n => block.readLines (metrics.insertNew (block.metricName word) n) rest
      | none => block.readLines metrics rest

/-- Adds the metrics of the block to `metrics`, if the log has the block. -/
def Block.read (block : Block) (cs : List Char) (metrics : Metrics) : Logged Metrics :=
  match bodyAfter? block.header.toList cs with
  | some body => block.readLines metrics (Text.lines body)
  | none => do
    .report (.blockNotFound block.header)
    return metrics

/-- Adds the scalars to `metrics`. -/
def readScalars (cs : List Char) (metrics : Metrics) : List Scalar → Logged Metrics
  | [] => pure metrics
  | scalar :: rest => do
    match ← scalar.read cs with
    | some n => readScalars cs (metrics.insert scalar.name n) rest
    | none => readScalars cs metrics rest

/-- Adds the metrics of the blocks to `metrics`. -/
def readBlocks (cs : List Char) (metrics : Metrics) : List Block → Logged Metrics
  | [] => pure metrics
  | block :: rest => do readBlocks cs (← block.read cs metrics) rest

/-- The metrics of a simulator log. -/
def read : LogReader := fun text => do
  let cs := text.toList
  readBlocks cs (← readScalars cs .empty scalars) blocks

/-- Measures a text instead of searching it: its bytes and its lines. -/
def lengthReader : LogReader := fun text =>
  pure (.ofList [("bytes", .ofNat text.utf8ByteSize),
    ("lines", .ofNat (Text.lines text.toList).length)])

end SimLog

end PolicyBench
