/-
  PolicyBench — a run of the program.

  The program reads its configuration, lets the arguments override it, analyses
  the policies, stores the table and prints the summary.  While it works it
  keeps a trace, if it is asked to.

  * `Host` is what the program needs from the system it runs on;
  * `run` is a whole run, `Outcome` what is seen of it afterwards;
  * `RunError` says why a run fails, `RunError.text` in the form in which it is
    printed;
  * `Args.override` gives the settings that are in effect.
-/
import PolicyBench.Analysis
import PolicyBench.Cli.Args
import PolicyBench.Cli.Help
import PolicyBench.Config.Json
import PolicyBench.Csv.Table
import PolicyBench.Summary
import PolicyBench.Trace.Filter
import PolicyBench.Trace.Line

namespace PolicyBench.Cli

open Text (Bytes)

/-! ## The system -/

/-- A system on which the program can run. -/
class Host (m : Type → Type) where
  readFile : Path → m (Except ReadError Bytes)
  /-- stores a file in place of any that is there -/
  writeFile : Path → Bytes → m (Except WriteError Unit)
  /-- opens the trace, emptied unless it is to be kept, and tells whether that
      succeeded; if not there is none -/
  openTrace : Path → Bool → m Bool
  /-- writes to the trace, if there is one -/
  trace : String → m Unit
  /-- the time, as a trace shows it -/
  time : m String

/-! ## Outcome -/

/-- Why a run fails. -/
inductive RunError where
  | openingConfig (problem : FileError)
  | readingConfig
  | analysis (problem : AnalysisError)
  | exporting (problem : Csv.ExportError)
  deriving DecidableEq

/-- The problem in words, the outermost first. -/
def RunError.messages : RunError → List String
  | openingConfig problem => ["Unable to open config file", problem.message]
  | readingConfig => ["Unable to parse config file"]
  | analysis problem => ["Unable to analyze policies", problem.message]
  | exporting problem => "Unable to export results" :: problem.messages

/-- Causes, one below the other; several are numbered. -/
def causesText : List String → String
  | [] => ""
  | [cause] => "\n\nCaused by:\n    " ++ cause
  | causes => "\n\nCaused by:" ++
    String.join (causes.zipIdx.map fun c => "\n" ++ Text.padStart 5 (Nat.repr c.2) ++ ": " ++ c.1)

/-- The problem as it is printed. -/
def RunError.text (e : RunError) : String :=
  match e.messages with
  | [] => ""
  | outer :: causes => "Error: " ++ outer ++ causesText causes

/-- What is seen of a run besides the files it wrote. -/
structure Outcome where
  exitCode : Nat
  output : String
  error : Option RunError

/-- A run that did what it was asked to. -/
def Outcome.success (output : String) : Outcome := ⟨0, output, none⟩

/-- A run that failed. -/
def Outcome.failure (e : RunError) : Outcome := ⟨1, "", some e⟩

/-- A run that broke off, with what it had shown until then. -/
def Outcome.brokenOff (output : String) : Outcome := ⟨101, output, none⟩

/-- A run that came to the end, where it shows a text. -/
def Outcome.ofWritten (w : Written) : Outcome :=
  if w.complete then .success w.text else .brokenOff w.text

/-! ## Steps -/

/-- The settings in effect: those of the file, overridden by the arguments. -/
def Args.override (args : Args) (config : Config) : Config where
  resultsDir := (args.resultsDir.map Path.mk).getD config.resultsDir
  logName := config.logName
  outputName := config.outputName
  policies := if args.policies = [] then config.policies else args.policies
  baseline := args.baseline.getD config.baseline
  timing := config.timing
  parallel := config.parallel

/-- Where the table is stored. -/
def Args.outputPath (args : Args) (config : Config) : Path :=
  (args.outputFile.map Path.mk).getD config.outputPath

variable {m : Type → Type} [Monad m] [Host m]

/-- Shows an event in the trace, if the filter lets it through. -/
def emit (filter : Filter) (e : Event) : m Unit := do
  if filter.shows e then
    let time ← Host.time
    Host.trace (traceLine time e)

/-- Shows the events of a result and gives its value. -/
def emitAll {α : Type} (filter : Filter) (x : Logged α) : m α := do
  x.events.forM (emit filter)
  return x.value

/-- The configuration of a file, or the default if there is none. -/
def readConfig (file : Option Path) : m (Except RunError Config) := do
  match file with
  | none => return .ok {}
  | some path =>
    match ← Host.readFile path with
    | .error (.opening problem) => return .error (.openingConfig problem)
    | .error (.reading _) => return .error .readingConfig
    | .ok content => return (Config.ofJson content).mapError fun _ => .readingConfig

/-- The text of a log. -/
def readLog (path : Path) : m (Except FileError String) := do
  match ← Host.readFile path with
  | .error e => return .error e.problem
  | .ok content => return (Text.ofUtf8? content).elim (.error .notText) .ok

/-- The runs of policies, in order. -/
def collectRuns (filter : Filter) (config : Config) : List String → m (List Run)
  | [] => return []
  | policy :: rest => do
    let log := config.logPath policy
    let run ← emitAll filter (Run.ofLog SimLog.read policy log (← readLog log))
    return run :: (← collectRuns filter config rest)

/-- Analyses the policies. -/
def analyzePolicies (filter : Filter) (config : Config) : m (Except AnalysisError Analysis) := do
  match config.validate with
  | .error problem => return .error (.config problem)
  | .ok () => emitAll filter (analyzeRuns config (← collectRuns filter config config.policies))

/-- Stores the table, unless only the summary is wanted. -/
def exportTable (filter : Filter) (args : Args) (config : Config) (table : Table) :
    m (Except RunError Unit) := do
  if args.noExport then return .ok ()
  let output := args.outputPath config
  match ← Host.writeFile output (Csv.encode table) with
  | .error e => return .error (.exporting (.ofWrite table output e))
  | .ok () =>
    emit filter (.exported output)
    return .ok ()

/-- Opens the trace that the arguments ask for; whether there is one. -/
def openTrace (args : Args) : m Bool :=
  match args.logFile with
  | none => return false
  | some file => Host.openTrace ⟨file⟩ args.logFileAppend

/-- What the program does once its settings are known. -/
def runWith (filter : Filter) (args : Args) (config : Config) : m Outcome := do
  emit filter (.configured config)
  match ← analyzePolicies filter config with
  | .error problem => return .failure (.analysis problem)
  | .ok analysis =>
    match ← exportTable filter args config analysis.table with
    | .error e => return .failure e
    | .ok () =>
      return .ofWritten (.ofPieces (summaryPieces analysis.table analysis.comparison))

/-- What the program does once the trace is opened. -/
def runTraced (filter : Filter) (args : Args) : m Outcome := do
  emit filter (.called args.text)
  match ← readConfig (args.configFile.map Path.mk) with
  | .error e => return .failure e
  | .ok config => runWith filter args (args.override config)

/-- What the program does once its arguments are understood.  The messages on the
    terminal get their filter first, the trace only if it is opened; a torn directive
    in the setting of either ends the run. -/
def runArgs (setting terminal : Option String) (args : Args) : m Outcome := do
  match Filter.ofSetting terminal with
  | none => return .brokenOff ""
  | some _ =>
    let traced ← openTrace args
    match Filter.ofSetting setting with
    | some filter => runTraced filter args
    | none => if traced then return .brokenOff "" else runTraced .standard args

/-- A run of the program.  `setting` is the setting for the filter of the trace, and
    `terminal` that for the messages on the terminal. -/
def run (setting : Option String) (arguments : List String)
    (terminal : Option String := none) : m Outcome :=
  match Args.parse arguments with
  | .error (.help long) => return .success (helpText long)
  | .error .usage => return ⟨2, "", none⟩
  | .ok args => runArgs setting terminal args

end PolicyBench.Cli
