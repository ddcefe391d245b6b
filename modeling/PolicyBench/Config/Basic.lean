/-
  PolicyBench — configuration.

  A configuration says which policies are compared, which of them is the
  baseline, where their logs are, and with which constants times are derived.

  * `Config` and `Timing` hold the settings, with their defaults;
  * `Config.logPath`, `Config.outputPath` are the files a run reads and writes;
  * `Config.validate` checks the settings in a fixed order and reports the first
    problem (`ConfigError`);
  * `isPolicyName`: a policy name is a single component of a path.
-/
import PolicyBench.Binary64.Decimal
import PolicyBench.Metric.Value
import PolicyBench.Path

namespace PolicyBench

/-! ## Settings -/

/-- The constants from which times are derived. -/
structure Timing where
  /-- the period of the memory clock, in nanoseconds -/
  cyclePeriod : Binary64 := Decimal.round false ⟨125, -2⟩
  /-- the number of tokens that the workload processes -/
  tokens : UInt64 := 512
  deriving DecidableEq, Inhabited

/-- The settings of an analysis. -/
structure Config where
  /-- the directory that holds a directory for each policy -/
  resultsDir : Path := ⟨"exp_results/kv_cache_evaluation"⟩
  /-- the name of the log in the directory of a policy -/
  logName : String := "simulation_output.log"
  /-- the name of the exported table in the directory of the results -/
  outputName : String := "comparison_results.csv"
  /-- the policies, in order -/
  policies : List String := ["baseline", "bank_partitioning", "contention_aware"]
  /-- the policy that the others are compared with -/
  baseline : String := "baseline"
  timing : Timing := {}
  /-- whether logs may be read at the same time -/
  parallel : Bool := true
  deriving DecidableEq, Inhabited

/-- The log of a policy. -/
def Config.logPath (config : Config) (policy : String) : Path :=
  (config.resultsDir.join policy).join config.logName

/-- The exported table, unless another file is asked for. -/
def Config.outputPath (config : Config) : Path :=
  config.resultsDir.join config.outputName

/-! ## Validity -/

/-- Whether `name` is a single component of a path. -/
def isPolicyName (name : String) : Bool :=
  match Path.components ⟨name⟩ with
  | [.named _] => true
  | _ => false

/-- The names that occur a second time after the names `before`, each once. -/
def repeatedAfter (before : List String) : List String → List String
  | [] => []
  | name :: rest =>
    let later := repeatedAfter (name :: before) rest
    if before.count name = 1 then name :: later else later

/-- Why a configuration cannot be used. -/
inductive ConfigError where
  | noPolicies
  | invalidPolicy (policy : String)
  | repeatedPolicies (policies : List String)
  | unknownBaseline (baseline : String) (policies : List String)
  | unusablePeriod (period : Binary64)
  deriving DecidableEq

/-- The problem in words. -/
def ConfigError.message : ConfigError → String
  | noPolicies => "No policies configured"
  | invalidPolicy policy => "Invalid policy name " ++ Text.quoted policy
  | repeatedPolicies policies => "Duplicate policies: " ++ Text.quotedList policies
  | unknownBaseline baseline policies =>
    "Baseline policy " ++ Text.quoted baseline ++ " is not among the configured policies " ++
      Text.quotedList policies
  | unusablePeriod period =>
    "Cycle period must be positive and finite, found " ++ period.write .plain

/-- Accepts a clock period that is positive and finite. -/
def Timing.validate (timing : Timing) : Except ConfigError Unit :=
  if timing.cyclePeriod.isFinite && timing.cyclePeriod.isPositive then .ok ()
  else .error (.unusablePeriod timing.cyclePeriod)

/-- Accepts policies that are distinct names of path components, a baseline
    among them, and a usable clock period. -/
def Config.validate (config : Config) : Except ConfigError Unit :=
  if config.policies = [] then .error .noPolicies
  else
    match config.policies.find? (!isPolicyName ·) with
    | some policy => .error (.invalidPolicy policy)
    | none =>
      match repeatedAfter [] config.policies with
      | [] =>
        if config.baseline ∈ config.policies then config.timing.validate
        else .error (.unknownBaseline config.baseline config.policies)
      | policies => .error (.repeatedPolicies policies)

end PolicyBench
