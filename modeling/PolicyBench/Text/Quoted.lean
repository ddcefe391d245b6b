/-
  PolicyBench — quoted text in messages.

  Messages and trace lines show names and paths between double quotes, with
  everything escaped that would not show as itself.

  * `escape` gives the visible form of one character: the usual backslash forms
    for NUL, tab, line feed, carriage return, quote and backslash, a hexadecimal
    `\u{…}` form for hidden characters and for those that would attach to the
    quote, and the character itself otherwise;
  * `quoted` quotes a text, `quotedList` and `quotedOption` a list and an
    optional text.
-/
import PolicyBench.Text.Visible

namespace PolicyBench.Text

/-- The code point of `c` between braces, in lower-case hexadecimal. -/
def codePointEscape (c : Char) : List Char :=
  '\\' :: 'u' :: '\x7b' :: Nat.toDigits 16 c.toNat ++ ['\x7d']

/-- The visible form of `c` within quotes. -/
def escape (c : Char) : List Char :=
  match c with
  | '\x00' => ['\\', '0']
  | '\t' => ['\\', 't']
  | '\n' => ['\\', 'n']
  | '\r' => ['\\', 'r']
  | '"' => ['\\', '"']
  | '\\' => ['\\', '\\']
  | c => if isVisible c && !isExtender c then [c] else codePointEscape c

/-- The text `s` between double quotes. -/
def quoted (s : String) : String :=
  String.ofList ('"' :: s.toList.flatMap escape ++ ['"'])

/-- A list of texts, each quoted. -/
def quotedList (ss : List String) : String :=
  "[" ++ ", ".intercalate (ss.map quoted) ++ "]"

/-- An optional text, quoted. -/
def quotedOption : Option String → String
  | some s => "Some(" ++ quoted s ++ ")"
  | none => "None"

end PolicyBench.Text
