/-
  PolicyBench — an analysis from the configuration to the comparison.

  An analysis checks its configuration, reads the log of every policy, builds
  the table and compares with the baseline.  A log that cannot be read gives an
  empty run; only the configuration can make an analysis fail.

  * `collect` reads the runs of some policies, `Analysis` is the outcome;
  * `analyzeRuns` is what follows once the runs are there;
  * `analyze` is a whole analysis, given a way to read files as text.
-/
import PolicyBench.Comparison
import PolicyBench.Table.Runs

namespace PolicyBench

/-- The runs of policies, in order, from the logs at the given paths. -/
def collect (reader : LogReader) (readText : Path → Except FileError String)
    (logPath : String → Path) : List String → Logged (List Run)
  | [] => pure []
  | policy :: rest => do
    let run ← Run.ofLog reader policy (logPath policy) (readText (logPath policy))
    return run :: (← collect reader readText logPath rest)

/-- What an analysis gives. -/
structure Analysis where
  table : Table
  /-- absent if the baseline reports nothing -/
  comparison : Option Comparison

/-- Why an analysis fails. -/
inductive AnalysisError where
  | config (problem : ConfigError)
  | table (problem : TableError)
  | comparison (problem : ComparisonError)
  deriving DecidableEq

/-- The problem in words. -/
def AnalysisError.message : AnalysisError → String
  | config problem => problem.message
  | table problem => problem.message
  | comparison problem => problem.message

/-- Builds the table of the runs and compares with the baseline. -/
def analyzeRuns (config : Config) (runs : List Run) : Logged (Except AnalysisError Analysis) := do
  .report (.runsCollected runs.length (runs.filter (·.metrics.isEmpty)).length)
  match ← Table.ofRuns config.timing runs with
  | .error problem => return .error (.table problem)
  | .ok table =>
    match ← Comparison.ofTable table config.baseline with
    | .error problem => return .error (.comparison problem)
    | .ok comparison => return .ok ⟨table, comparison⟩

/-- Analyses the policies of a configuration. -/
def analyze (config : Config) (readText : Path → Except FileError String) (reader : LogReader) :
    Logged (Except AnalysisError Analysis) :=
  match config.validate with
  | .error problem => pure (.error (.config problem))
  | .ok () => do analyzeRuns config (← collect reader readText config.logPath config.policies)

end PolicyBench
