/-
  PolicyBench — which events a trace shows.

  A filter is a list of directives, separated by commas.  Of the directives about
  an event the most specific decides.

  * `Filter.parse` reads a filter; the first directive from the left that is none
    says why there is no filter;
  * `Filter.ofSetting` is the filter of a setting: the standard one where none is
    given, or none that makes sense;
  * `Filter.shows` says whether an event is shown; of two directives about it
    `Directive.prefer` takes the more specific.
-/
import PolicyBench.SimLog.Scan
import PolicyBench.Trace.Directive

namespace PolicyBench

/-- The directives for events, in order. -/
abbrev Filter := List Directive

/-! ## Reading -/

/-- Reads a filter; nothing between two commas is no directive. -/
def Filter.parse (s : String) : Except DirectiveError Filter := do
  let directives ← ((Text.parts ',' s.toList).filter (· ≠ [])).mapM Directive.parse
  return directives.filterMap id

/-- Everything down to debug events. -/
def Filter.standard : Filter := [⟨"", none, some .debug⟩]

/-- The filter of a setting that may be missing or make no sense; `none` if one of
    its directives is torn. -/
def Filter.ofSetting (setting : Option String) : Option Filter :=
  match setting.map Filter.parse with
  | none => some .standard
  | some (.ok filter) => some filter
  | some (.error .malformed) => some .standard
  | some (.error .torn) => none

/-! ## Filtering -/

/-- Whether a directive is about an event. -/
def Directive.covers (d : Directive) (e : Event) : Bool :=
  (SimLog.after? d.target.toList e.target.toList).isSome &&
    d.field.all fun name => name == "message" || e.fields.any (·.1 == name)

/-- Of two directives about an event the more specific: the one with the longer
    target; of equal targets, the one with the field that is later in order, a
    field coming after none; of two alike, the second. -/
def Directive.prefer (best : Option Directive) (d : Directive) : Option Directive :=
  match best with
  | none => some d
  | some b =>
    if b.target.length < d.target.length then some d
    else if d.target.length < b.target.length then some b
    else
      match b.field, d.field with
      | none, _ => some d
      | some _, none => some b
      | some old, some new => if new < old then some b else some d

/-- Whether an event is shown. -/
def Filter.shows (filter : Filter) (e : Event) : Bool :=
  match (filter.filter (·.covers e)).foldl Directive.prefer none with
  | some ⟨_, _, some limit⟩ => decide (e.level.detail ≤ limit.detail)
  | _ => false

end PolicyBench
