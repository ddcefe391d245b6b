/-
  PolicyBench — lines of a trace.

  A trace has one line for each event that its filter lets through: the time,
  the level, the target, the message, and the fields.

  * `traceLine` is the line of an event.
-/
import PolicyBench.Event
import PolicyBench.Text.Aligned

namespace PolicyBench

/-- The line of an event noticed at `time`. -/
def traceLine (time : String) (e : Event) : String :=
  time ++ " " ++ Text.padStart 5 e.level.name ++ " " ++ e.target ++ ": " ++ e.message ++
    String.join (e.fields.map fun f => " " ++ f.1 ++ "=" ++ f.2) ++ "\n"

end PolicyBench
