/-
  PolicyBench — values of a given shape from JSON.

  A document is read as a value of some type by going through it from the left;
  the first fault decides.  A structure may be an object or an array of its
  fields in order.  Fields that are missing keep the value they had; members
  with other names are skipped; a field may not be given twice.

  * `readBool`, `readText`, `readTexts`, `readFloat`, `readNatural` read values;
  * `Field α` is a field of a structure, `readStructure` reads a structure;
  * `readAll`: a text is one document, with nothing behind it.
-/
import PolicyBench.Json.Document

namespace PolicyBench.Json

open Text (Bytes)

/-! ## Values -/

/-- A truth value. -/
def readBool : Document → Except Fault Bool
  | .bool b => .ok b
  | v => .error v.unexpected

/-- A text. -/
def readText : Document → Except Fault String
  | .text q => q.text
  | v => .error v.unexpected

/-- A floating-point number. -/
def readFloat : Document → Except Fault Binary64
  | .number n => Number.toBinary64 <$> n.value
  | v => .error v.unexpected

/-- A natural number of 64 bits. -/
def readNatural : Document → Except Fault UInt64
  | .number n =>
    match n.value with
    | .error fault => .error fault
    | .ok (.natural k) => .ok k
    | .ok (.other _) => .error .wrongShape
  | v => .error v.unexpected

/-- The end of an array or object. -/
def readEnd {α : Type} (a : α) : Option Fault → Except Fault α
  | none => .ok a
  | some fault => .error fault

/-- The items as texts. -/
def textsOfItems : Items → Except Fault (List String)
  | .done fault => readEnd [] fault
  | .item v rest => do return (← readText v) :: (← textsOfItems rest)

/-- A list of texts. -/
def readTexts : Document → Except Fault (List String)
  | .array items => textsOfItems items
  | v => .error v.unexpected

/-! ## Structures -/

/-- A field of a structure: its name, and how a document sets it. -/
structure Field (α : Type) where
  name : String
  set : α → Document → Except Fault α

/-- Sets the fields from the items of an array, in order. -/
def readItems {α : Type} (fields : List (Field α)) (a : α) : Items → Except Fault α
  | .done fault => readEnd a fault
  | .item v rest =>
    match fields with
    | [] => .error .malformed
    | field :: fields => do readItems fields (← field.set a v) rest

/-- Sets the fields from the members of an object; `seen` are those already set. -/
def readMembers {α : Type} (fields : List (Field α)) (seen : List String) (a : α) :
    Members → Except Fault α
  | .done fault => readEnd a fault
  | .member name v rest => do
    let name ← name.text
    match fields.find? (·.name == name) with
    | none =>
      match v.ignoredFault? with
      | some fault => .error fault
      | none => readMembers fields seen a rest
    | some field =>
      if name ∈ seen then .error .wrongShape
      else readMembers fields (name :: seen) (← field.set a v) rest

/-- A structure, with the values of `a` for what is missing. -/
def readStructure {α : Type} (fields : List (Field α)) (a : α) : Document → Except Fault α
  | .array items => readItems fields a items
  | .object members => readMembers fields [] a members
  | v => .error v.unexpected

/-! ## Whole texts -/

/-- Reads a text that consists of one document. -/
def readAll {α : Type} (read : Document → Except Fault α) (text : Bytes) : Except Fault α := do
  let (document, rest) := Document.ofTokens (tokens text)
  let a ← read document
  if rest = [] then return a else .error .malformed

end PolicyBench.Json
