/-
  PolicyBench — aligned texts.

  Texts in columns are filled with spaces up to a common width, counted in
  characters.  A text that is longer is not cut.

  * `padEnd` fills on the right, `padStart` on the left;
  * `length_padEnd`, `length_padStart`: the length is the width, or that of the
    text if it is greater.
-/

namespace PolicyBench.Text

/-- The text, filled with spaces on the right. -/
def padEnd (width : Nat) (s : String) : String :=
  s ++ String.ofList (List.replicate (width - s.length) ' ')

/-- The text, filled with spaces on the left. -/
def padStart (width : Nat) (s : String) : String :=
  String.ofList (List.replicate (width - s.length) ' ') ++ s

theorem length_padEnd (width : Nat) (s : String) :
    (padEnd width s).length = max width s.length := by
  simp [padEnd]; omega

theorem length_padStart (width : Nat) (s : String) :
    (padStart width s).length = max width s.length := by
  simp [padStart]; omega

end PolicyBench.Text
