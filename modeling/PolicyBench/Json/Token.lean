/-
  PolicyBench — JSON tokens.

  A JSON text is cut into tokens, blanks dropped.  A token that is broken ends
  the list: nothing behind it matters, because whoever meets it gives up.

  * `Token` is a token, `Token.isBroken` tells the broken ones;
  * `readToken` takes one from the front, `tokens` cuts a whole text;
  * `length_rest_readToken_le`: a token is at least one byte.
-/
import PolicyBench.Json.Number

namespace PolicyBench.Json

open Text (Bytes)

/-- A token. -/
inductive Token where
  | openBrace
  | closeBrace
  | openBracket
  | closeBracket
  | colon
  | comma
  | null
  | bool (b : Bool)
  | number (n : NumberText)
  | text (q : Quoted)
  /-- the beginning of a word, and then the end of the text -/
  | cutWord
  /-- a byte with which no token begins, or a word that is none -/
  | stray
  deriving DecidableEq, Repr

/-- Whether a token is broken. -/
def Token.isBroken : Token → Bool
  | number n => n.fault.isSome
  | text q => q.fault.isSome
  | cutWord => true
  | stray => true
  | _ => false

/-- Whether a byte is blank. -/
def isBlank (b : UInt8) : Bool := b == 0x20 || b == 0x0A || b == 0x09 || b == 0x0D

/-- Takes the rest of a word that stands for `t`. -/
def readWord (t : Token) : Bytes → Bytes → Token × Bytes
  | [], bs => (t, bs)
  | _ :: _, [] => (.cutWord, [])
  | w :: word, b :: bs => if b = w then readWord t word bs else (.stray, bs)

/-- Takes the token that begins with `b`. -/
def readToken (b : UInt8) (bs : Bytes) : Token × Bytes :=
  match b with
  | 0x7B => (.openBrace, bs)
  | 0x7D => (.closeBrace, bs)
  | 0x5B => (.openBracket, bs)
  | 0x5D => (.closeBracket, bs)
  | 0x3A => (.colon, bs)
  | 0x2C => (.comma, bs)
  | 0x22 => let (q, rest) := readQuoted bs; (.text q, rest)
  | 0x6E => readWord .null (Text.utf8 "ull") bs
  | 0x74 => readWord (.bool true) (Text.utf8 "rue") bs
  | 0x66 => readWord (.bool false) (Text.utf8 "alse") bs
  | b =>
    if b = 0x2D then let (n, rest) := readWhole true bs; (.number n, rest)
    else if isDigit b then
      let (n, rest) := readWhole false (b :: bs)
      (.number n, rest)
    else (.stray, bs)

theorem length_rest_readWord_le (t : Token) (word bs : Bytes) :
    (readWord t word bs).2.length ≤ bs.length := by
  fun_induction readWord t word bs <;> simp_all
  omega

/-- A number that begins with a digit takes that digit. -/
theorem length_rest_readWhole_lt {b : UInt8} {bs : Bytes} (h : isDigit b = true) :
    (readWhole false (b :: bs)).2.length ≤ bs.length := by
  have ht : (takeDigits (b :: bs)).2 = bs.dropWhile isDigit := by simp [takeDigits, h]
  have hl := (List.dropWhile_sublist isDigit (l := bs)).length_le
  have hf := fun (n : NumberText) (bs : Bytes) => length_rest_readFraction_le n bs
  unfold readWhole
  split <;> grind

theorem length_rest_readToken_le (b : UInt8) (bs : Bytes) :
    (readToken b bs).2.length ≤ bs.length := by
  unfold readToken
  split
  case h_7 => exact length_rest_readQuoted_le bs
  case h_8 => exact length_rest_readWord_le ..
  case h_9 => exact length_rest_readWord_le ..
  case h_10 => exact length_rest_readWord_le ..
  case h_11 =>
    split
    · exact length_rest_readWhole_le true bs
    · split
      · next h => exact length_rest_readWhole_lt h
      · exact Nat.le_refl _
  all_goals exact Nat.le_refl _

/-- The tokens of a text, up to the first broken one. -/
def tokens (bs : Bytes) : List Token :=
  match bs with
  | [] => []
  | b :: bs =>
    if isBlank b then tokens bs
    else
      have := length_rest_readToken_le b bs
      let t := readToken b bs
      if t.1.isBroken then [t.1] else t.1 :: tokens t.2
termination_by bs.length
decreasing_by
  · exact Nat.lt_succ_self _
  · simp only [List.length_cons]; omega

/-- Blanks before a text do not change its tokens. -/
theorem tokens_cons_of_isBlank {b : UInt8} {bs : Bytes} (h : isBlank b = true) :
    tokens (b :: bs) = tokens bs := by
  rw [tokens]; simp [h]

end PolicyBench.Json
