/-
  PolicyBench — JSON documents.

  A document is what the tokens of a text say, up to the first fault: the fault
  stands in the document at the place where it was met.  So whoever goes through
  a document from the left meets values and faults in the order of the text.

  * `Document` is a document; its arrays and objects end with what was met in
    the place of a comma or a bracket;
  * `build` makes the document of tokens, with a stack of the arrays and objects
    that are still open, so that nesting has no limit;
  * `Document.ofTokens` is the document and the tokens behind it;
  * `Document.ignoredFault?` is the fault met by someone who skips a value, and
    `Document.unexpected` the one met by someone who asks for a value of another
    kind.
-/
import PolicyBench.Json.Token

namespace PolicyBench.Json

/-! ## Documents -/

mutual

/-- A value as far as it could be read. -/
inductive Document where
  | null
  | bool (b : Bool)
  | number (n : NumberText)
  | text (q : Quoted)
  | array (items : Items)
  | object (members : Members)
  /-- there is no value, but a fault -/
  | broken (fault : Fault)

/-- The items of an array. -/
inductive Items where
  /-- the end of the array; without a fault, its bracket -/
  | done (fault : Option Fault)
  | item (value : Document) (rest : Items)

/-- The members of an object. -/
inductive Members where
  /-- the end of the object; without a fault, its brace -/
  | done (fault : Option Fault)
  | member (name : Quoted) (value : Document) (rest : Members)

end

/-- The items in `before`, the last one first, in front of others. -/
def Items.prepend (rest : Items) : List Document → Items
  | [] => rest
  | v :: before => Items.prepend (.item v rest) before

/-- The members in `before`, the last one first, in front of others. -/
def Members.prepend (rest : Members) : List (Quoted × Document) → Members
  | [] => rest
  | (name, v) :: before => Members.prepend (.member name v rest) before

/-! ## Building -/

/-- An array or object that is still open, with what it holds so far, the last
    one first. -/
inductive Frame where
  | array (before : List Document)
  /-- `name` is the name whose value is being read -/
  | object (before : List (Quoted × Document)) (name : Quoted)

/-- What has to come next. -/
inductive Expected where
  | value
  | itemOrEnd
  | nameOrEnd
  | name (before : List (Quoted × Document))
  | colon (before : List (Quoted × Document)) (name : Quoted)
  /-- the value is complete; its array or object goes on -/
  | next (value : Document)

/-- A value that is the last thing in an open array or object. -/
def Frame.close (fault : Option Fault) (v : Document) : Frame → Document
  | .array before => .array (Items.prepend (.done fault) (v :: before))
  | .object before name => .object (Members.prepend (.done fault) ((name, v) :: before))

/-- A value behind which nothing can be read any more. -/
def giveUp (v : Document) (stack : List Frame) : Document :=
  stack.foldl (fun v frame => frame.close none v) v

/-- What comes after the first token of a value: the value itself, or an open
    array or object, or a fault. -/
def startValue : Token → Expected ⊕ Document
  | .null => .inl (.next .null)
  | .bool b => .inl (.next (.bool b))
  | .number n => if n.fault.isSome then .inr (.number n) else .inl (.next (.number n))
  | .text q => if q.fault.isSome then .inr (.text q) else .inl (.next (.text q))
  | .openBracket => .inl .itemOrEnd
  | .openBrace => .inl .nameOrEnd
  | .cutWord => .inr (.broken .endOfText)
  | _ => .inr (.broken .malformed)

/-- Goes on with tokens, inside the open arrays and objects of `stack`. -/
def build (stack : List Frame) (expected : Expected) : List Token → Document × List Token
  | [] =>
    match expected, stack with
    | .value, _ => (giveUp (.broken .endOfText) stack, [])
    | .itemOrEnd, _ => (giveUp (.array (.done (some .endOfText))) stack, [])
    | .nameOrEnd, _ => (giveUp (.object (.done (some .endOfText))) stack, [])
    | .name before, _ =>
      (giveUp (.object (Members.prepend (.done (some .endOfText)) before)) stack, [])
    | .colon before name, _ =>
      (giveUp ((Frame.object before name).close none (.broken .endOfText)) stack, [])
    | .next v, [] => (v, [])
    | .next v, frame :: stack => (giveUp (frame.close (some .endOfText) v) stack, [])
  | t :: ts =>
    match expected, stack with
    | .value, _ =>
      match startValue t with
      | .inl expected => build stack expected ts
      | .inr v => (giveUp v stack, ts)
    | .itemOrEnd, _ =>
      if t = .closeBracket then build stack (.next (.array (.done none))) ts
      else
        match startValue t with
        | .inl expected => build (.array [] :: stack) expected ts
        | .inr v => (giveUp v (.array [] :: stack), ts)
    | .nameOrEnd, _ =>
      match t with
      | .closeBrace => build stack (.next (.object (.done none))) ts
      | .text q => build stack (.colon [] q) ts
      | _ => (giveUp (.object (.done (some .malformed))) stack, ts)
    | .name before, _ =>
      match t with
      | .text q => build stack (.colon before q) ts
      | _ => (giveUp (.object (Members.prepend (.done (some .malformed)) before)) stack, ts)
    | .colon before name, _ =>
      if t = .colon then build (.object before name :: stack) .value ts
      else (giveUp ((Frame.object before name).close none (.broken .malformed)) stack, ts)
    | .next v, [] => (v, t :: ts)
    | .next v, .array before :: stack =>
      match t with
      | .comma => build (.array (v :: before) :: stack) .value ts
      | .closeBracket => build stack (.next ((Frame.array before).close none v)) ts
      | _ => (giveUp ((Frame.array before).close (some .malformed) v) stack, ts)
    | .next v, .object before name :: stack =>
      match t with
      | .comma => build stack (.name ((name, v) :: before)) ts
      | .closeBrace => build stack (.next ((Frame.object before name).close none v)) ts
      | _ => (giveUp ((Frame.object before name).close (some .malformed) v) stack, ts)

/-- The document at the front of the tokens, and the tokens behind it. -/
def Document.ofTokens (ts : List Token) : Document × List Token := build [] .value ts

/-! ## Faults -/

mutual

/-- The fault met by someone who skips the value.  The parts of a number must be
    there, even if the text ends; strings are not worked out. -/
def Document.ignoredFault? : Document → Option Fault
  | .null => none
  | .bool _ => none
  | .number n => if n.fault.isSome then some .malformed else none
  | .text q => q.fault
  | .array items => items.ignoredFault?
  | .object members => members.ignoredFault?
  | .broken fault => some fault

/-- The fault met by someone who skips the items. -/
def Items.ignoredFault? : Items → Option Fault
  | .done fault => fault
  | .item v rest => v.ignoredFault?.or rest.ignoredFault?

/-- The fault met by someone who skips the members. -/
def Members.ignoredFault? : Members → Option Fault
  | .done fault => fault
  | .member name v rest => name.fault.or (v.ignoredFault?.or rest.ignoredFault?)

end

/-- The fault met by someone who asks for a value of another kind: strings and
    numbers are worked out first. -/
def Document.unexpected : Document → Fault
  | .number n =>
    match n.value with
    | .error fault => fault
    | .ok _ => .wrongShape
  | .text q =>
    match q.text with
    | .error fault => fault
    | .ok _ => .wrongShape
  | .broken fault => fault
  | _ => .wrongShape

end PolicyBench.Json
