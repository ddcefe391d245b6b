/-
  PolicyBench — sets of characters given by ranges of code points.

  A character class is a short rule for ASCII and a list of closed ranges for
  the rest, so that the common case is one comparison and the rare case is a
  table that can be checked entry by entry.

  * `CodeRanges` is a list of closed ranges, `CodeRanges.contains` membership;
  * `contains_iff`: a code point belongs to the set exactly when some range
    covers it.
-/

namespace PolicyBench.Text

/-- Closed ranges of code points. -/
structure CodeRanges where
  ranges : List (Nat × Nat)

namespace CodeRanges

/-- Whether some range covers the code point `n`. -/
def contains (t : CodeRanges) (n : Nat) : Bool :=
  t.ranges.any fun r => decide (r.1 ≤ n) && decide (n ≤ r.2)

theorem contains_iff (t : CodeRanges) (n : Nat) :
    t.contains n = true ↔ ∃ r ∈ t.ranges, r.1 ≤ n ∧ n ≤ r.2 := by
  simp [contains]

end CodeRanges

end PolicyBench.Text
