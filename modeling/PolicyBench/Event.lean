/-
  PolicyBench — events.

  What an analysis notices on its way is reported as events.  An event is its
  cause; its level, the part of the program that reports it, its message and
  its fields follow from the cause.

  * `Level` orders events by their weight;
  * `Event` lists the causes;
  * `Event.level`, `Event.target`, `Event.message`, `Event.fields` describe one.
    A field is a name with a text; texts are quoted where they hold foreign
    names or paths;
  * `Event.isWarning`: a warning means that data was lost.
-/
import PolicyBench.Config.Basic
import PolicyBench.FileSystem
import PolicyBench.NameMap

namespace PolicyBench

/-- The weight of an event, the heaviest first. -/
inductive Level where
  | error
  | warn
  | info
  | debug
  | trace
  deriving DecidableEq, Repr

namespace Level

/-- The name of a level. -/
def name : Level → String
  | error => "ERROR"
  | warn => "WARN"
  | info => "INFO"
  | debug => "DEBUG"
  | trace => "TRACE"

/-- How much detail a level adds: errors are the least. -/
def detail : Level → Nat
  | error => 1
  | warn => 2
  | info => 3
  | debug => 4
  | trace => 5

end Level

/-- The counts that a log reports, by name. -/
abbrev Metrics := NameMap UInt64

/-- Something noticed on the way, by its cause. -/
inductive Event where
  /-- no label of a scalar metric is in the log -/
  | metricNotFound (name : String)
  /-- no statistics block with this header is in the log -/
  | blockNotFound (header : String)
  /-- a metric is in the log, but its digits are no count -/
  | unrepresentable (name digits : String) (problem : CountError)
  | logUnreadable (policy : String) (log : Path) (problem : FileError)
  | metricsRead (policy : String) (log : Path) (metrics : Metrics)
  | runsCollected (policies withoutMetrics : Nat)
  | timeNotFinite (policy : String) (cycles : UInt64)
  | timeZero (policy : String)
  | throughputNotFinite (policy : String) (seconds : Binary64)
  | baselineEmpty (baseline : String)
  | baselineZeroCycles (baseline : String)
  | baselineNoCycles (baseline : String)
  | baselineNoConflicts (baseline : String)
  | notComparable (policy : String)
  /-- how the program was called -/
  | called (arguments : String)
  | configured (config : Config)
  | exported (output : Path)
  deriving DecidableEq

/-- The metrics as `name=value` pairs. -/
def Metrics.text (metrics : Metrics) : String :=
  if metrics.isEmpty then "<none>"
  else ", ".intercalate (metrics.entries.map fun e => e.1 ++ "=" ++ Nat.repr e.2.toNat)

/-- The settings in one line, as they are shown when the program starts. -/
def Config.text (config : Config) : String :=
  "Config \x7b results_dir: " ++ Text.quoted config.resultsDir.text ++
  ", log_file_name: " ++ Text.quoted config.logName ++
  ", output_file_name: " ++ Text.quoted config.outputName ++
  ", policies: " ++ Text.quotedList config.policies ++
  ", baseline: " ++ Text.quoted config.baseline ++
  ", timing: TimingConfig \x7b cycle_period_ns: " ++ config.timing.cyclePeriod.write .marked ++
  ", workload_token_count: " ++ Nat.repr config.timing.tokens.toNat ++
  " \x7d, parallel: " ++ (if config.parallel then "true" else "false") ++ " \x7d"

namespace Event

/-- The weight of an event. -/
def level : Event → Level
  | metricNotFound .. | blockNotFound .. => .trace
  | metricsRead .. | notComparable .. | called .. | configured .. => .debug
  | runsCollected .. | exported .. => .info
  | unrepresentable .. | logUnreadable .. | timeNotFinite .. | timeZero ..
  | throughputNotFinite .. | baselineEmpty .. | baselineZeroCycles .. | baselineNoCycles ..
  | baselineNoConflicts .. => .warn

/-- The part of the program that reports an event. -/
def target : Event → String
  | metricNotFound .. | blockNotFound .. | unrepresentable .. => "pimstat::parser"
  | logUnreadable .. | metricsRead .. => "pimstat::collector"
  | timeNotFinite .. | timeZero .. | throughputNotFinite .. => "pimstat::aggregate"
  | baselineEmpty .. | baselineZeroCycles .. | baselineNoCycles .. | baselineNoConflicts ..
  | notComparable .. => "pimstat::compare"
  | runsCollected .. | configured .. | exported .. => "pimstat"
  | called .. => "pimstat_util::logger::pre_init"

/-- What happened, in words. -/
def message : Event → String
  | metricNotFound .. => "Metric not found"
  | blockNotFound .. => "Block not found"
  | unrepresentable .. => "Ignoring metric with unrepresentable value"
  | logUnreadable .. => "Unable to read log, policy will have no metrics"
  | metricsRead _ _ metrics => "Parsed metrics: " ++ metrics.text
  | runsCollected .. => "Collected all policy runs"
  | timeNotFinite .. => "Total time is not finite, skipping derived metrics"
  | timeZero .. => "Total time is zero, skipping throughput"
  | throughputNotFinite .. => "Throughput is not finite, skipping it"
  | baselineEmpty .. => "Baseline has no metrics, skipping comparison"
  | baselineZeroCycles .. => "Baseline has zero cycles, skipping cycle improvements"
  | baselineNoCycles .. => "Baseline has no cycles, skipping cycle improvements"
  | baselineNoConflicts .. => "Baseline has no conflicts, skipping conflict reductions"
  | notComparable .. => "Policy has no comparable metrics, skipping it"
  | called arguments => "Args: " ++ arguments
  | configured .. => "Configuration"
  | exported .. => "Results saved"

/-- The particulars of an event, in order. -/
def fields : Event → List (String × String)
  | metricNotFound name => [("name", Text.quoted name)]
  | blockNotFound header => [("header", Text.quoted header)]
  | unrepresentable name digits problem =>
    [("name", Text.quoted name), ("value", Text.quoted digits), ("err", problem.message)]
  | logUnreadable policy log problem =>
    [("policy", Text.quoted policy), ("log_path", Text.quoted log.text), ("err", problem.message)]
  | metricsRead policy log _ =>
    [("policy", Text.quoted policy), ("log_path", Text.quoted log.text)]
  | runsCollected policies withoutMetrics =>
    [("policies", Nat.repr policies), ("without_metrics", Nat.repr withoutMetrics)]
  | timeNotFinite policy cycles =>
    [("policy", Text.quoted policy), ("total_cycles", "Int(" ++ Nat.repr cycles.toNat ++ ")")]
  | timeZero policy => [("policy", Text.quoted policy)]
  | throughputNotFinite policy seconds =>
    [("policy", Text.quoted policy), ("total_time_seconds", seconds.write .marked)]
  | baselineEmpty baseline | baselineZeroCycles baseline | baselineNoCycles baseline
  | baselineNoConflicts baseline => [("baseline", Text.quoted baseline)]
  | notComparable policy => [("policy", policy)]
  | called _ => []
  | configured config => [("config", config.text)]
  | exported output => [("output_path", Text.quoted output.text)]

/-- Whether data was lost. -/
def isWarning (e : Event) : Bool := e.level == .warn

end Event

end PolicyBench
