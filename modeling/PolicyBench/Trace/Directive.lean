/-
  PolicyBench — directives for a trace.

  A directive gives a level, a target, or both: events of that target are shown
  down to that level.  It may ask for a field in brackets, and is then about
  events that have it.  Directives that name a span, or ask for the value of a
  field, concern spans and say nothing about events.

  A directive is read without the blanks around it, and its parts are then cut
  out of the directive with them, at the positions that were found.  So blanks
  in front move the parts, and may move an end of one into a character.

  * `Directive` is a directive for events, `Directive.parse` reads one;
  * `DirectiveError` says why there is none;
  * `Scope` is what the brackets ask for, `readScope` reads it.
-/
import PolicyBench.Binary64.Decimal
import PolicyBench.Event
import PolicyBench.Pattern.Basic
import PolicyBench.Text.Slice

namespace PolicyBench

/-- Events whose target begins with `target`, and that have the field if one is
    given, are shown down to `level`; with no level, none is. -/
structure Directive where
  target : String
  field : Option String
  level : Option Level
  deriving DecidableEq, Repr

/-- Why a text is no directive. -/
inductive DirectiveError where
  /-- it makes no sense -/
  | malformed
  /-- one of its parts would end within a character -/
  | torn
  deriving DecidableEq, Repr

namespace Directive

/-! ## Levels -/

/-- Whether a text is a word in lower case, but for the case of its letters. -/
def isWordInAnyCase (word : String) (cs : List Char) : Bool :=
  cs.map Char.toLower == word.toList

/-- The level with a number, from none to all. -/
def levelOfNumber? : Nat → Option (Option Level)
  | 0 => some none
  | 1 => some (some .error)
  | 2 => some (some .warn)
  | 3 => some (some .info)
  | 4 => some (some .debug)
  | 5 => some (some .trace)
  | _ => none

/-- The levels by name. -/
def levelNames : List (String × Option Level) :=
  [("error", some .error), ("warn", some .warn), ("info", some .info), ("debug", some .debug),
    ("trace", some .trace), ("off", none)]

/-- The level that a text gives by its number or its name. -/
def readLevel? (cs : List Char) : Option (Option Level) :=
  match readCount cs with
  | .ok n => levelOfNumber? n.toNat
  | .error _ => (levelNames.find? fun l => isWordInAnyCase l.1 cs).map Prod.snd

/-! ## Parts -/

/-- What lies between two positions of a directive. -/
def cut (piece : List Char) (first last : Nat) : Except DirectiveError (List Char) :=
  (Text.slice? first last piece).elim (.error .torn) .ok

/-- The level behind an equals sign, from a position to the end; all levels if
    there is nothing. -/
def readLevelAt (piece : List Char) (first : Nat) : Except DirectiveError (Option Level) := do
  let text ← cut piece first (Text.byteLength piece)
  if text = [] then return some .trace
  else (readLevel? text).elim (.error .malformed) .ok

/-! ## Brackets -/

/-- What the brackets of a directive ask for. -/
inductive Scope where
  /-- for a span, or for the value of a field -/
  | span
  /-- for a field, whatever its value -/
  | field (name : String)
  deriving DecidableEq, Repr

/-- Whether the value of a field can be asked for: as a number, or by a pattern
    for its text. -/
def isValue (cs : List Char) : Bool :=
  let magnitude := (Binary64.takeSign cs).2
  (Binary64.ofText? cs).isSome ||
    (["inf", "infinity", "nan"].any fun word => isWordInAnyCase word magnitude) ||
    Pattern.isPattern cs

/-- What is asked for between braces: a field, or its value behind an equals sign.
    What follows a second equals sign does not matter. -/
def readField? (cs : List Char) : Option Scope :=
  match Text.parts '=' cs with
  | _ :: value :: _ => if isValue value then some .span else none
  | _ => if cs = [] then none else some (.field (String.ofList cs))

/-- What is asked for behind an opening bracket, where the text `cs` stands at the
    position `first`; the position behind the closing bracket, and what follows
    it.  The brackets hold the name of a span, and behind it a field in braces. -/
def readScope (piece : List Char) (first : Nat) (cs : List Char) :
    Except DirectiveError (Scope × Nat × List Char) := do
  let inName (c : Char) : Bool := c != ']' && c != '\x7b'
  let last := first + Text.byteLength (cs.takeWhile inName)
  match cs.dropWhile inName with
  | [] => .error .malformed
  | c :: rest =>
    let name ← cut piece first last
    if c = ']' then return (.span, last + 1, rest)
    else
      let close := last + 1 + Text.byteLength (rest.takeWhile (· ≠ '\x7d'))
      match rest.dropWhile (· ≠ '\x7d') with
      | [] => .error .malformed
      | _ :: rest =>
        match readField? (← cut piece (last + 1) close), rest with
        | some scope, ']' :: rest =>
          return (if name = [] then scope else .span, close + 2, rest)
        | _, _ => .error .malformed

/-! ## Directives -/

/-- The directive for events with this target, scope and level. -/
def ofParts (target : List Char) (scope : Option Scope) (level : Option Level) :
    Option Directive :=
  match scope with
  | none => some ⟨String.ofList target, none, level⟩
  | some (.field name) => some ⟨String.ofList target, some name, level⟩
  | some .span => none

/-- The directive that is only a level or, if it names none, only a target. -/
def ofWord (piece : List Char) : Directive :=
  match readLevel? piece with
  | some level => ⟨"", none, level⟩
  | none => ⟨String.ofList piece, none, some .trace⟩

/-- Whether a directive may begin with the character. -/
def begins (c : Char) : Bool := c ∈ ['[', '-', ':', '_'] || Text.isAlphanumeric c

/-- Reads a directive: none for events if it is about spans. -/
def parse (piece : List Char) : Except DirectiveError (Option Directive) := do
  let inTarget (c : Char) : Bool := c != '=' && c != '['
  let bare := Text.trim piece
  if !bare.head?.any begins then .error .malformed
  else
    let last := Text.byteLength (bare.takeWhile inTarget)
    match bare.dropWhile inTarget with
    | [] => return some (ofWord piece)
    | c :: rest =>
      let target ← cut piece 0 last
      if c = '=' then return ofParts target none (← readLevelAt piece (last + 1))
      else
        let (scope, last, rest) ← readScope piece (last + 1) rest
        match rest with
        | [] => return ofParts target (some scope) (some .trace)
        | '=' :: _ => return ofParts target (some scope) (← readLevelAt piece (last + 1))
        | _ => .error .malformed

end Directive

end PolicyBench
