/-
  PolicyBench — white space.

  Blank characters are those with the Unicode property White_Space: tab to
  carriage return, the space, and the wider spaces and separators.

  * `isBlank` is the class; `isBlank_of_isWhitespace` says that it covers the
    white space of the core library;
  * `trim` takes the blanks off both ends of a text; what it leaves stands in
    the text as it is (`trim_isInfix`).
-/
import PolicyBench.Text.CodeRanges

namespace PolicyBench.Text

/-- The characters with the property White_Space. -/
def blanks : CodeRanges := ⟨[
    (0x9, 0xD), (0x20, 0x20),
    (0x85, 0x85), (0xA0, 0xA0), (0x1680, 0x1680), (0x2000, 0x200A), (0x2028, 0x2029),
    (0x202F, 0x202F), (0x205F, 0x205F), (0x3000, 0x3000)]⟩

/-- A white-space character. -/
def isBlank (c : Char) : Bool :=
  blanks.contains c.toNat

theorem isBlank_of_isWhitespace {c : Char} (h : c.isWhitespace = true) : isBlank c = true := by
  simp only [Char.isWhitespace, Bool.or_eq_true, decide_eq_true_eq] at h
  rcases h with ((rfl | rfl) | rfl) | rfl <;> decide

/-- A text without the blanks at its ends. -/
def trim (cs : List Char) : List Char :=
  ((cs.dropWhile isBlank).reverse.dropWhile isBlank).reverse

theorem trim_isInfix (cs : List Char) : trim cs <:+: cs := by
  have h : trim cs <+: cs.dropWhile isBlank := by
    rw [← List.reverse_suffix, trim, List.reverse_reverse]
    exact List.dropWhile_suffix _
  exact h.isInfix.trans (List.dropWhile_suffix _).isInfix

end PolicyBench.Text
