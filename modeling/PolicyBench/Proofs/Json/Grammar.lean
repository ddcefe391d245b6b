/-
  PolicyBench — how JSON is written.

  The grammar of JSON on characters.  Where there is a choice (blanks, escapes, the
  order of members, the letter of an exponent) every choice is allowed.

  * `Spells`: a string for a text; `StringBody`: any string, also one that stands for no
    text because it holds half of a surrogate pair;
  * `SpelledNumber`: the parts of a number and how it is written;
  * `IsArray`, `IsObject`: items and members between brackets, with blanks around them;
  * `IsValue`: any value, whatever is nested in it;
  * `IsText`, `IsFloat` and others: the values that are read as a given one;
  * `IsStructure`: an object that gives some of the fields of a structure, in any order
    and among members of other names.
-/
import Mathlib.Data.List.Forall2
import PolicyBench.Json.Number

namespace PolicyBench.Json

-- What holds of all elements of a list is decided on the list, also where its type is finite.
attribute [local instance (high)] List.decidableBAll

/-! ## Blanks -/

/-- Nothing but blanks. -/
def Blanks (cs : List Char) : Prop := ∀ c ∈ cs, c ∈ [' ', '\n', '\t', '\r']

instance (cs : List Char) : Decidable (Blanks cs) := List.decidableBAll _ cs

/-! ## Strings -/

/-- The character may stand for itself in a string. -/
def Bare (c : Char) : Prop := 0x20 ≤ c.toNat ∧ c ≠ '"' ∧ c ≠ '\\'

instance (c : Char) : Decidable (Bare c) := inferInstanceAs (Decidable (_ ∧ _))

/-- The letters behind a backslash, with the characters that they stand for. -/
def shortEscapes : List (Char × Char) :=
  [('"', '"'), ('\\', '\\'), ('/', '/'), ('b', '\x08'), ('f', '\x0c'), ('n', '\n'), ('r', '\r'),
    ('t', '\t')]

/-- The hexadecimal digits, small and capital, with their values. -/
def hexDigits : List (Char × Nat) :=
  [('0', 0), ('1', 1), ('2', 2), ('3', 3), ('4', 4), ('5', 5), ('6', 6), ('7', 7), ('8', 8),
    ('9', 9), ('a', 10), ('b', 11), ('c', 12), ('d', 13), ('e', 14), ('f', 15), ('A', 10),
    ('B', 11), ('C', 12), ('D', 13), ('E', 14), ('F', 15)]

/-- Four hexadecimal digits, and the unit that they name. -/
inductive HexCode : List Char → Nat → Prop where
  | digits {a b c d : Char} {p q r s : Nat} : (a, p) ∈ hexDigits → (b, q) ∈ hexDigits →
      (c, r) ∈ hexDigits → (d, s) ∈ hexDigits →
      HexCode [a, b, c, d] (((p * 16 + q) * 16 + r) * 16 + s)

/-- The text `s` may be written as `cs` between quotes. -/
inductive Spells : List Char → List Char → Prop where
  | nil : Spells [] []
  | bare {c s cs} : Bare c → Spells s cs → Spells (c :: s) (c :: cs)
  | short {e c s cs} : (e, c) ∈ shortEscapes → Spells s cs → Spells (c :: s) ('\\' :: e :: cs)
  | code {c s code cs} : HexCode code c.toNat → Spells s cs →
      Spells (c :: s) ('\\' :: 'u' :: (code ++ cs))
  /-- a character beyond the first 2^16, by its surrogate pair -/
  | pair {c s lead trail m n cs} : HexCode lead m → HexCode trail n →
      0xD800 ≤ m ∧ m ≤ 0xDBFF → 0xDC00 ≤ n ∧ n ≤ 0xDFFF →
      c.toNat = 0x10000 + (m - 0xD800) * 0x400 + (n - 0xDC00) → Spells s cs →
      Spells (c :: s) ('\\' :: 'u' :: (lead ++ '\\' :: 'u' :: (trail ++ cs)))

/-- Characters that may stand for themselves do. -/
theorem spells_self {s : List Char} (h : ∀ c ∈ s, Bare c) : Spells s s := by
  induction s with
  | nil => exact .nil
  | cons c s ih =>
    exact .bare (h c List.mem_cons_self) (ih fun c hc => h c (List.mem_cons_of_mem _ hc))

/-- What may stand between quotes, whether it is a text or not. -/
inductive StringBody : List Char → Prop where
  | nil : StringBody []
  | bare {c cs} : Bare c → StringBody cs → StringBody (c :: cs)
  | short {e c cs} : (e, c) ∈ shortEscapes → StringBody cs → StringBody ('\\' :: e :: cs)
  | code {code n cs} : HexCode code n → StringBody cs → StringBody ('\\' :: 'u' :: (code ++ cs))

/-- With its quotes. -/
def inQuotes (cs : List Char) : List Char := '"' :: (cs ++ ['"'])

/-! ## Numbers -/

/-- Decimal digits, at least one. -/
structure IsDigits (ds : List Nat) : Prop where
  ne_nil : ds ≠ []
  lt_ten : ∀ d ∈ ds, d < 10

/-- The characters of digits. -/
def digitChars (ds : List Nat) : List Char := ds.map Nat.digitChar

/-- The part before the point has no superfluous zero. -/
inductive IsWhole : List Nat → Prop where
  | zero : IsWhole [0]
  | nonzero {d ds} : d ≠ 0 → IsDigits (d :: ds) → IsWhole (d :: ds)

/-- The fraction, if there is one. -/
inductive IsFraction : Bool → List Nat → List Char → Prop where
  | absent : IsFraction false [] []
  | present {ds} : IsDigits ds → IsFraction true ds ('.' :: digitChars ds)

/-- The exponent, if there is one. -/
inductive IsExponent : Option (Bool × List Nat) → List Char → Prop where
  | absent : IsExponent none []
  | plain {e ds} : e ∈ ['e', 'E'] → IsDigits ds →
      IsExponent (some (false, ds)) (e :: digitChars ds)
  | plus {e ds} : e ∈ ['e', 'E'] → IsDigits ds →
      IsExponent (some (false, ds)) (e :: '+' :: digitChars ds)
  | minus {e ds} : e ∈ ['e', 'E'] → IsDigits ds →
      IsExponent (some (true, ds)) (e :: '-' :: digitChars ds)

/-- The number with the parts `n` may be written as `cs`. -/
inductive SpelledNumber : NumberText → List Char → Prop where
  | parts {negative whole pointed fraction fs exponent es} : IsWhole whole →
      IsFraction pointed fraction fs → IsExponent exponent es →
      SpelledNumber ⟨negative, whole, fraction, pointed, exponent, none⟩
        ((if negative then ['-'] else []) ++ (digitChars whole ++ (fs ++ es)))

/-! ## Arrays and objects -/

/-- A value with what stands around it. -/
structure Item where
  before : List Char
  value : List Char
  after : List Char

/-- The item as it is written. -/
def Item.text (i : Item) : List Char := i.before ++ (i.value ++ i.after)

/-- A name, what stands around it, and an item. -/
structure Member where
  before : List Char
  /-- between its quotes -/
  name : List Char
  after : List Char
  item : Item

/-- The member as it is written. -/
def Member.text (m : Member) : List Char :=
  m.before ++ (inQuotes m.name ++ (m.after ++ ':' :: m.item.text))

/-- Only blanks stand around the value. -/
structure Item.Padded (i : Item) : Prop where
  before : Blanks i.before
  after : Blanks i.after

/-- Only blanks stand around the name and the value. -/
structure Member.Padded (m : Member) : Prop where
  before : Blanks m.before
  after : Blanks m.after
  item : m.item.Padded

/-- Parts with commas between them in brackets; only blanks where there are none. -/
inductive InBrackets (opening closing : Char) : List (List Char) → List Char → Prop where
  | empty {blanks} : Blanks blanks →
      InBrackets opening closing [] (opening :: (blanks ++ [closing]))
  | parts {part rest} : InBrackets opening closing (part :: rest)
      (opening :: ([','].intercalate (part :: rest) ++ [closing]))

/-- An array of these items. -/
structure IsArray (items : List Item) (cs : List Char) : Prop where
  padded : ∀ i ∈ items, i.Padded
  written : InBrackets '[' ']' (items.map Item.text) cs

/-- An object of these members. -/
structure IsObject (members : List Member) (cs : List Char) : Prop where
  padded : ∀ m ∈ members, m.Padded
  written : InBrackets '\x7b' '\x7d' (members.map Member.text) cs

/-! ## Values -/

/-- Any value.  Names may be repeated, and neither strings nor numbers need to stand for
    anything. -/
inductive IsValue : List Char → Prop where
  | word {cs} : cs ∈ ["null".toList, "true".toList, "false".toList] → IsValue cs
  | number {n cs} : SpelledNumber n cs → IsValue cs
  | string {cs} : StringBody cs → IsValue (inQuotes cs)
  | array {items cs} : IsArray items cs → (∀ i ∈ items, IsValue i.value) → IsValue cs
  | object {members cs} : IsObject members cs → (∀ m ∈ members, StringBody m.name) →
      (∀ m ∈ members, IsValue m.item.value) → IsValue cs

/-! ## Values of a given type -/

/-- A way to write the text. -/
inductive IsText (s : String) : List Char → Prop where
  | quoted {cs} : Spells s.toList cs → IsText s (inQuotes cs)

/-- A way to write the texts, in order. -/
inductive IsTexts (ss : List String) : List Char → Prop where
  | array {items cs} : IsArray items cs →
      List.Forall₂ (fun s (i : Item) => IsText s i.value) ss items → IsTexts ss cs

/-- A number of which `x` is the value in floating-point. -/
inductive IsFloat (x : Binary64) : List Char → Prop where
  | number {n v cs} : SpelledNumber n cs → n.value = .ok v → v.toBinary64 = x → IsFloat x cs

/-- The only way to write the natural number. -/
inductive IsNatural (k : UInt64) : List Char → Prop where
  | digits : IsNatural k (Nat.toDigits 10 k.toNat)

/-- The only way to write the truth value. -/
inductive IsBool (b : Bool) : List Char → Prop where
  | word : IsBool b (if b then "true" else "false").toList

/-! ## Structures -/

/-- The member has the given name.  If that is a field, its value is one that `gives`
    relates to the field; if not, it is any value. -/
structure IsMember (fields : List String) (gives : String → List Char → Prop) (name : String)
    (m : Member) : Prop where
  named : Spells name.toList m.name
  field : name ∈ fields → gives name m.item.value
  other : name ∉ fields → IsValue m.item.value

/-- An object that gives the fields `given`, each once, and no others. -/
inductive IsStructure (fields : List String) (gives : String → List Char → Prop)
    (given : List String) (cs : List Char) : Prop where
  | members (names : List String) (members : List Member) : IsObject members cs →
      List.Forall₂ (IsMember fields gives) names members →
      (names.filter (· ∈ fields)).Perm given → IsStructure fields gives given cs

/-- With blanks around it, as the content of a file. -/
inductive Alone (p : List Char → Prop) : List Char → Prop where
  | padded {before cs after} : Blanks before → p cs → Blanks after →
      Alone p (before ++ (cs ++ after))

end PolicyBench.Json
