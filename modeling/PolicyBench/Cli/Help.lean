/-
  PolicyBench — the help.

  The help lists the options of the program.  The short form gives each a line;
  the long form says more about some, and sets what it says below the option.

  * `OptionHelp` is what the help says about an option, `optionHelps` lists them;
  * `helpText` is the whole text.
-/
import PolicyBench.Text.Aligned

namespace PolicyBench.Cli

/-- What the help says about an option. -/
structure OptionHelp where
  /-- the option with a name for its value, in the column where it stands -/
  form : String
  summary : String
  /-- the lines that only the long help has -/
  details : List String := []

/-- What the help says about the options, in order. -/
def optionHelps (long : Bool) : List OptionHelp :=
  [{ form := "      --log-file <LOG_FILE>"
     summary := "Log file"
     details := [
       "Specifies a file to perform verbose logging to. You can use `RUST_LOG_FILE` to set",
       "filtering options"] },
   { form := "      --log-file-append"
     summary := "Whether to append to the log file" },
   { form := "      --config <CONFIG_FILE>"
     summary := "Config file"
     details := ["If not passed, uses the default configuration."] },
   { form := "      --results-dir <RESULTS_DIR>"
     summary := "Results directory"
     details := ["Overrides the configured results directory."] },
   { form := "      --baseline <BASELINE>"
     summary := "Baseline policy" },
   { form := "      --policy <POLICIES>"
     summary := "Policies to compare"
     details := ["May be passed multiple times. Replaces the configured policies."] },
   { form := "      --output <OUTPUT_FILE>"
     summary := "Output file"
     details := ["Defaults to the configured output file within the results directory."] },
   { form := "      --no-export"
     summary := "Only print the summary, without exporting the table" },
   { form := "  -h, --help"
     summary :=
       if long then "Print help (see a summary with '-h')"
       else "Print help (see more with '--help')" }]

/-- An option with its summary, `width` characters from the margin. -/
def OptionHelp.line (width : Nat) (option : OptionHelp) : String :=
  Text.padEnd width option.form ++ option.summary ++ "\n"

/-- An option, and below it all that is said about it. -/
def OptionHelp.paragraphs (option : OptionHelp) : String :=
  let below := if option.details = [] then [] else "" :: option.details
  option.form ++ "\n" ++
    String.join ((option.summary :: below).map fun line => "          " ++ line ++ "\n")

/-- The text of the help. -/
def helpText (long : Bool) : String :=
  let options := optionHelps long
  let width := (options.map (·.form.length)).foldr max 0 + 2
  "Arguments\n\nUsage: pimstat [OPTIONS]\n\nOptions:\n" ++
    if long then "\n".intercalate (options.map OptionHelp.paragraphs)
    else String.join (options.map (OptionHelp.line width))

end PolicyBench.Cli
