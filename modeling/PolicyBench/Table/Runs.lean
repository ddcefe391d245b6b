/-
  PolicyBench — the table of a set of runs.

  A run is what the log of a policy reports.  The table of several runs has a
  column for each metric that occurs, in the order of their names, and behind
  them columns for what can be derived from the cycles: the total time in
  nanoseconds and in seconds, and the throughput.

  * `Run` is a run, `Run.ofLog` the one of a log that may be unreadable;
  * `derive` works out the derived values that are finite (`finiteOrReport`);
  * `Run.row` is the row of a run, `rawColumns` and `derivedColumns` the columns:
    the names of the runs are merged (`mergeAll`), and repeats dropped;
  * `Table.ofRuns` is the table.
-/
import PolicyBench.SimLog.Metrics
import PolicyBench.Table.Basic

namespace PolicyBench

/-! ## Runs -/

/-- What the log of a policy reports; nothing if there is no log. -/
structure Run where
  policy : String
  metrics : Metrics
  deriving DecidableEq

/-- The run of a policy, from the text of its log or the reason why it cannot be
    read. -/
def Run.ofLog (reader : LogReader) (policy : String) (log : Path) :
    Except FileError String → Logged Run
  | .error problem => do
    .report (.logUnreadable policy log problem)
    return ⟨policy, .empty⟩
  | .ok text => do
    let metrics ← reader text
    .report (.metricsRead policy log metrics)
    return ⟨policy, metrics⟩

/-! ## Derived values -/

/-- The total time in nanoseconds. -/
def totalTimeNs : String := "total_time_ns"

/-- The total time in seconds. -/
def totalTimeSeconds : String := "total_time_seconds"

/-- The throughput in tokens per second. -/
def throughput : String := "throughput_tokens_per_sec"

/-- The derived columns, in the order in which a table shows them. -/
def derivedNames : List String := [totalTimeNs, totalTimeSeconds, throughput]

/-- Nanoseconds in a second. -/
def nanosecondsPerSecond : Binary64 := .ofNat 1000000000

/-- The number if it is finite; if not, that is reported. -/
def finiteOrReport (x : Binary64) (problem : Event) : Logged (Option Binary64) :=
  match x.finite? with
  | some x => pure (some x)
  | none => do
    .report problem
    return none

/-- The derived values of a policy whose cycles take `ns` nanoseconds, with the
    number of tokens.  A time that is not finite rules out all of them, a time of
    zero or a throughput that is not finite the throughput. -/
def derive (policy : String) (cycles : UInt64) (ns tokens : Binary64) :
    Logged (List (String × Binary64)) := do
  match ← finiteOrReport ns (.timeNotFinite policy cycles) with
  | none => return []
  | some ns =>
    let seconds := ns / nanosecondsPerSecond
    let times := [(totalTimeNs, ns), (totalTimeSeconds, seconds)]
    if seconds.isZero then
      .report (.timeZero policy)
      return times
    else
      match ← finiteOrReport (tokens / seconds) (.throughputNotFinite policy seconds) with
      | some rate => return times ++ [(throughput, rate)]
      | none => return times

/-- The derived values of a run, if it reports its cycles. -/
def Run.derived (timing : Timing) (run : Run) : Logged (List (String × Binary64)) :=
  match run.metrics.get? totalCycles with
  | some cycles =>
    derive run.policy cycles (.ofNat cycles.toNat * timing.cyclePeriod)
      (.ofNat timing.tokens.toNat)
  | none => pure []

/-! ## The table -/

/-- The row of a run: its metrics, and what is derived from them. -/
def Run.row (timing : Timing) (run : Run) : Logged Row := do
  let derived ← run.derived timing
  return {
    policy := run.policy
    values := (run.metrics.map .count).insertAll (derived.map fun d => (d.1, .measure d.2)) }

/-- The rows of the runs, in order. -/
def rowsOf (timing : Timing) : List Run → Logged (List Row)
  | [] => pure []
  | run :: rest => do return (← run.row timing) :: (← rowsOf timing rest)

/-- Two lists of names, each in order, as one that is in order. -/
def mergeNames : List String → List String → List String
  | [], others => others
  | name :: names, others =>
    others.takeWhile (· < name) ++ name :: mergeNames names (others.dropWhile (· < name))

/-- All lists of names as one. -/
def mergeAll (lists : List (List String)) : List String := lists.foldr mergeNames []

/-- The names without those that stand right behind an equal one. -/
def dropRepeats : List String → List String
  | [] => []
  | [name] => [name]
  | name :: next :: rest =>
    if name = next then dropRepeats (next :: rest) else name :: dropRepeats (next :: rest)

/-- The names of all metrics that occur: those of the runs merged, each once. -/
def rawColumns (runs : List Run) : List String :=
  dropRepeats (mergeAll (runs.map (·.metrics.names)))

/-- The derived columns in which some row has a value. -/
def derivedColumns (rows : List Row) : List String :=
  derivedNames.filter fun name => rows.any fun row => (row.get? name).isSome

/-- The table of the runs. -/
def Table.ofRuns (timing : Timing) (runs : List Run) : Logged (Except TableError Table) := do
  let rows ← rowsOf timing runs
  return Table.ofRows (rawColumns runs ++ derivedColumns rows) rows

end PolicyBench
