/-
  PolicyBench — lines of a text.

  A line ends with a line feed, or with a carriage return and a line feed; the
  last line may lack its end.  A carriage return elsewhere belongs to its line.

  * `lines` splits a text, dropping the line ends;
  * `lines_eq_nil_iff`: only the empty text has no line.
-/

namespace PolicyBench.Text

/-- The lines of a text, without their ends. -/
def lines : List Char → List (List Char)
  | [] => []
  | '\n' :: cs => [] :: lines cs
  | '\r' :: '\n' :: cs => [] :: lines cs
  | c :: cs =>
    match lines cs with
    | [] => [[c]]
    | l :: ls => (c :: l) :: ls

theorem lines_eq_nil_iff {cs : List Char} : lines cs = [] ↔ cs = [] := by
  fun_cases lines cs <;> simp [*]

end PolicyBench.Text
