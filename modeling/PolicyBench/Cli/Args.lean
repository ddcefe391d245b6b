/-
  PolicyBench — command-line arguments.

  Options have long names; the value of an option follows it, as an argument of
  its own or behind an equals sign.  Arguments are taken from the left, and the
  first problem decides.

  * `Args` holds the settings that arguments make, `Args.text` shows them;
  * `Args.parse` reads arguments, or says why the program stops (`Stop`);
  * `setOption?`, `setSwitch?` list what can be given, `meaning` tells what one
    argument means.
-/
import PolicyBench.Path
import PolicyBench.Text.Quoted

namespace PolicyBench.Cli

/-- What the arguments of the program say. -/
structure Args where
  /-- the file for the trace -/
  logFile : Option String := none
  /-- whether a trace that is there is kept -/
  logFileAppend : Bool := false
  configFile : Option String := none
  resultsDir : Option String := none
  baseline : Option String := none
  policies : List String := []
  outputFile : Option String := none
  /-- whether only the summary is wanted -/
  noExport : Bool := false
  deriving DecidableEq, Repr

/-- The arguments in one line. -/
def Args.text (args : Args) : String :=
  let bool (b : Bool) := if b then "true" else "false"
  "Args \x7b log_file: " ++ Text.quotedOption args.logFile ++
  ", log_file_append: " ++ bool args.logFileAppend ++
  ", config_file: " ++ Text.quotedOption args.configFile ++
  ", results_dir: " ++ Text.quotedOption args.resultsDir ++
  ", baseline: " ++ Text.quotedOption args.baseline ++
  ", policies: " ++ Text.quotedList args.policies ++
  ", output_file: " ++ Text.quotedOption args.outputFile ++
  ", no_export: " ++ bool args.noExport ++ " \x7d"

/-- Why the program stops after looking at its arguments. -/
inductive Stop where
  /-- help was asked for, at length or not -/
  | help (long : Bool)
  /-- the arguments make no sense -/
  | usage
  deriving DecidableEq, Repr

/-! ## Options -/

/-- Sets what may be set once. -/
def setOnce (old : Option String) (value : String) : Except Stop (Option String) :=
  match old with
  | none => .ok (some value)
  | some _ => .error .usage

/-- Sets a path once; it must not be empty. -/
def setPath (old : Option String) (value : String) : Except Stop (Option String) :=
  if value = "" then .error .usage else setOnce old value

/-- What the option `name` does with its value; `none` if there is no such option. -/
def setOption? (name : String) : Option (Args → String → Except Stop Args) :=
  match name with
  | "log-file" => some fun a v => do return { a with logFile := ← setPath a.logFile v }
  | "config" => some fun a v => do return { a with configFile := ← setPath a.configFile v }
  | "results-dir" => some fun a v => do return { a with resultsDir := ← setPath a.resultsDir v }
  | "baseline" => some fun a v => do return { a with baseline := ← setOnce a.baseline v }
  | "policy" => some fun a v => .ok { a with policies := a.policies ++ [v] }
  | "output" => some fun a v => do return { a with outputFile := ← setPath a.outputFile v }
  | _ => none

/-- What the switch `name` does; `none` if there is no such switch. -/
def setSwitch? (name : String) : Option (Args → Except Stop Args) :=
  match name with
  | "log-file-append" => some fun a =>
    if a.logFileAppend then .error .usage else .ok { a with logFileAppend := true }
  | "no-export" => some fun a =>
    if a.noExport then .error .usage else .ok { a with noExport := true }
  | "help" => some fun _ => .error (.help true)
  | _ => none

/-! ## Reading -/

/-- Whether an argument can be the value of the option before it. -/
def isValue (arg : String) : Bool :=
  match arg.toList with
  | '-' :: _ :: _ => false
  | _ => true

/-- What an argument means by itself. -/
inductive Meaning where
  /-- it changes the settings, or stops the program -/
  | change (set : Args → Except Stop Args)
  /-- it changes the settings with the value that follows -/
  | changeWith (set : Args → String → Except Stop Args)
  /-- only arguments that are no options may follow -/
  | separator
  /-- nothing that the program knows -/
  | unknown

/-- What an argument means. -/
def meaning (arg : String) : Meaning :=
  match arg.toList with
  | ['-', '-'] => .separator
  | '-' :: '-' :: cs =>
    let name := String.ofList (cs.takeWhile (· ≠ '='))
    match cs.dropWhile (· ≠ '=') with
    | _ :: value =>
      match setOption? name with
      | some set => .change fun args => set args (String.ofList value)
      | none => .unknown
    | [] =>
      match setSwitch? name with
      | some set => .change set
      | none => (setOption? name).elim .unknown .changeWith
  | '-' :: 'h' :: _ => .change fun _ => .error (.help false)
  | _ => .unknown

/-- Reads arguments on top of `args`. -/
def Args.extend (args : Args) : List String → Except Stop Args
  | [] => .ok args
  | arg :: rest =>
    match meaning arg with
    | .change set => do (← set args).extend rest
    | .changeWith set =>
      match rest with
      | [] => .error .usage
      | value :: rest =>
        if isValue value then do (← set args value).extend rest else .error .usage
    | .separator => if rest = [] then .ok args else .error .usage
    | .unknown => .error .usage

/-- What the arguments say. -/
def Args.parse (arguments : List String) : Except Stop Args := Args.extend {} arguments

end PolicyBench.Cli
