/-
  PolicyBench — JSON strings.

  Between its quotes a JSON string holds bytes and escapes.  Reading it has two
  stages: the first finds its end and its units, the second works out the text,
  where pairs of surrogates are joined and the bytes must be UTF-8.

  * `Fault` says what is wrong with a JSON text;
  * `Quoted` is a string after the first stage, with the fault that ended it, if
    one did; `readQuoted` is that stage;
  * `Quoted.text` is the second stage;
  * `quoted` writes a string: quotes, backslashes and control characters are
    escaped, nothing else;
  * `length_rest_readQuoted_le`: the first stage only consumes.
-/
import PolicyBench.Text.Utf8

namespace PolicyBench.Json

open Text (Bytes)

/-- What is wrong with a JSON text. -/
inductive Fault where
  /-- it ends too early -/
  | endOfText
  /-- it breaks the grammar, or a number or string in it has no value -/
  | malformed
  /-- it is right JSON, but not of the shape that is asked for -/
  | wrongShape
  deriving DecidableEq, Repr

/-! ## Units -/

/-- A unit of a string. -/
inductive TextUnit where
  /-- a byte as it stands, or one that a short escape names -/
  | byte (b : UInt8)
  /-- a UTF-16 unit given by four hexadecimal digits -/
  | code (n : Nat)
  deriving DecidableEq, Repr

/-- A string after its opening quote. -/
structure Quoted where
  units : List TextUnit
  /-- what broke it off, unless it was closed -/
  fault : Option Fault
  deriving DecidableEq, Repr

/-- With a unit in front. -/
def Quoted.keep (u : TextUnit) (q : Quoted) : Quoted := { q with units := u :: q.units }

/-- The value of a hexadecimal digit. -/
def hexValue? (b : UInt8) : Option Nat :=
  let n := b.toNat
  if 0x30 ≤ n ∧ n ≤ 0x39 then some (n - 0x30)
  else if 0x41 ≤ n ∧ n ≤ 0x46 then some (n - 0x41 + 10)
  else if 0x61 ≤ n ∧ n ≤ 0x66 then some (n - 0x61 + 10)
  else none

/-- The value of four hexadecimal digits. -/
def hexCode? (a b c d : UInt8) : Option Nat := do
  return (((← hexValue? a) * 16 + (← hexValue? b)) * 16 + (← hexValue? c)) * 16 + (← hexValue? d)

/-- The byte that a letter behind a backslash names. -/
def shortEscape? (b : UInt8) : Option UInt8 :=
  if b = 0x22 ∨ b = 0x5C ∨ b = 0x2F then some b  -- quote, backslash, slash
  else if b = 0x62 then some 0x08
  else if b = 0x66 then some 0x0C
  else if b = 0x6E then some 0x0A
  else if b = 0x72 then some 0x0D
  else if b = 0x74 then some 0x09
  else none

/-- The units up to the closing quote, and the bytes behind it. -/
def readQuoted (bs : Bytes) : Quoted × Bytes :=
  match bs with
  | [] => (⟨[], some .endOfText⟩, [])
  | 0x22 :: rest => (⟨[], none⟩, rest)
  | [0x5C] => (⟨[], some .endOfText⟩, [])
  | 0x5C :: 0x75 :: a :: b :: c :: d :: rest =>
    match hexCode? a b c d with
    | some n => let (q, rest) := readQuoted rest; (q.keep (.code n), rest)
    | none => (⟨[], some .malformed⟩, rest)
  | 0x5C :: 0x75 :: _ => (⟨[], some .endOfText⟩, [])
  | 0x5C :: e :: rest =>
    match shortEscape? e with
    | some b => let (q, rest) := readQuoted rest; (q.keep (.byte b), rest)
    | none => (⟨[], some .malformed⟩, rest)
  | b :: rest =>
    if b < 0x20 then (⟨[], some .malformed⟩, rest)
    else let (q, rest) := readQuoted rest; (q.keep (.byte b), rest)

theorem length_rest_readQuoted_le (bs : Bytes) : (readQuoted bs).2.length ≤ bs.length := by
  fun_induction readQuoted bs <;> simp_all <;> omega

/-! ## Text -/

/-- A UTF-16 unit that begins a pair. -/
def isLead (n : Nat) : Bool := decide (0xD800 ≤ n) && decide (n ≤ 0xDBFF)

/-- A UTF-16 unit that ends a pair. -/
def isTrail (n : Nat) : Bool := decide (0xDC00 ≤ n) && decide (n ≤ 0xDFFF)

/-- The code point of a pair. -/
def joinPair (lead trail : Nat) : Nat := 0x10000 + (lead - 0xD800) * 0x400 + (trail - 0xDC00)

/-- The UTF-8 encoding of a code point. -/
def encodeCode (n : Nat) : Bytes := String.utf8EncodeChar (Char.ofNat n)

/-- The bytes of units.  A surrogate must be part of a pair; the first problem
    decides, `fault` coming after all units. -/
def bytesOf (fault : Option Fault) : List TextUnit → Except Fault Bytes
  | [] => match fault with
    | none => .ok []
    | some f => .error f
  | .byte b :: rest => return b :: (← bytesOf fault rest)
  | [.code n] =>
    if isTrail n then .error .malformed
    else if isLead n then .error (fault.getD .malformed)
    else match fault with
      | none => .ok (encodeCode n)
      | some f => .error f
  | .code n :: .code m :: rest =>
    if isTrail n then .error .malformed
    else if isLead n then
      if isTrail m then return encodeCode (joinPair n m) ++ (← bytesOf fault rest)
      else .error .malformed
    else return encodeCode n ++ (← bytesOf fault (.code m :: rest))
  | .code n :: .byte b :: rest =>
    if isTrail n || isLead n then .error .malformed
    else return encodeCode n ++ (← bytesOf fault (.byte b :: rest))

/-- The text of a string. -/
def Quoted.text (q : Quoted) : Except Fault String := do
  match Text.ofUtf8? (← bytesOf q.fault q.units) with
  | some s => return s
  | none => .error .malformed

/-! ## Writing -/

/-- A character as it is written in a string. -/
def quotedChar (c : Char) : List Char :=
  match c with
  | '"' => ['\\', '"']
  | '\\' => ['\\', '\\']
  | '\x08' => ['\\', 'b']
  | '\x0c' => ['\\', 'f']
  | '\n' => ['\\', 'n']
  | '\r' => ['\\', 'r']
  | '\t' => ['\\', 't']
  | c =>
    if c.toNat < 0x20 then
      ['\\', 'u', '0', '0', Nat.digitChar (c.toNat / 16), Nat.digitChar (c.toNat % 16)]
    else [c]

/-- A string with its quotes. -/
def quoted (s : String) : String :=
  String.ofList ('"' :: s.toList.flatMap quotedChar ++ ['"'])

end PolicyBench.Json
