/-
  PolicyBench — configurations as JSON.

  A configuration file is a JSON structure; what it leaves out has its default.

  * `Config.ofJson` is the configuration of a file, `Config.toJson` the file of
    a configuration;
  * `configFields`, `timingFields` are the fields in their order.
-/
import PolicyBench.Config.Basic
import PolicyBench.Json.Shape

namespace PolicyBench

open Json (Fault)

/-! ## Reading -/

/-- The fields of the timing constants. -/
def timingFields : List (Json.Field Timing) :=
  [⟨"cycle_period_ns", fun t v => do return { t with cyclePeriod := ← Json.readFloat v }⟩,
   ⟨"workload_token_count", fun t v => do return { t with tokens := ← Json.readNatural v }⟩]

/-- The fields of a configuration. -/
def configFields : List (Json.Field Config) :=
  [⟨"results_dir", fun c v => do return { c with resultsDir := ⟨← Json.readText v⟩ }⟩,
   ⟨"log_file_name", fun c v => do return { c with logName := ← Json.readText v }⟩,
   ⟨"output_file_name", fun c v => do return { c with outputName := ← Json.readText v }⟩,
   ⟨"policies", fun c v => do return { c with policies := ← Json.readTexts v }⟩,
   ⟨"baseline", fun c v => do return { c with baseline := ← Json.readText v }⟩,
   ⟨"timing", fun c v => do return { c with timing := ← Json.readStructure timingFields {} v }⟩,
   ⟨"parallel", fun c v => do return { c with parallel := ← Json.readBool v }⟩]

/-- The configuration of a file. -/
def Config.ofJson (file : Text.Bytes) : Except Fault Config :=
  Json.readAll (Json.readStructure configFields {}) file

/-! ## Writing -/

/-- A member of an object. -/
def jsonMember (name value : String) : String := Json.quoted name ++ ":" ++ value

/-- An object. -/
def jsonObject (members : List String) : String := "\x7b" ++ ",".intercalate members ++ "\x7d"

/-- The timing constants as JSON. -/
def Timing.toJson (timing : Timing) : String :=
  jsonObject [
    jsonMember "cycle_period_ns" (Json.writeFloat timing.cyclePeriod),
    jsonMember "workload_token_count" (Nat.repr timing.tokens.toNat)]

/-- The file of a configuration, without blanks. -/
def Config.toJson (config : Config) : String :=
  jsonObject [
    jsonMember "results_dir" (Json.quoted config.resultsDir.text),
    jsonMember "log_file_name" (Json.quoted config.logName),
    jsonMember "output_file_name" (Json.quoted config.outputName),
    jsonMember "policies" ("[" ++ ",".intercalate (config.policies.map Json.quoted) ++ "]"),
    jsonMember "baseline" (Json.quoted config.baseline),
    jsonMember "timing" config.timing.toJson,
    jsonMember "parallel" (if config.parallel then "true" else "false")]

end PolicyBench
