/-
  PolicyBench — texts of metric values read back.

  The text of a count or of a finite measure is read as the value it was made
  from, kind included; the text of NaN or of an infinity is no value.  A text
  never holds what separates or quotes texts elsewhere.

  * `MetricValue.isFinite`: the value is a count or a finite measure;
  * `point_mem_text_measure`: a finite measure has a point in its text, by which
    it is told from a count;
  * `parse_text_eq_ok_iff`: exactly the finite values are read back, and as
    themselves;
  * `isDigit_or_mem_of_mem_text`: the characters of a text;
  * `text_keeps_kind_and_number`: all of this at once.
-/
import PolicyBench.Metric.Value
import PolicyBench.Proofs.Binary64.Positional
import PolicyBench.Proofs.Count

namespace PolicyBench

namespace MetricValue

/-- Whether the value is a count or a finite measure. -/
def isFinite : MetricValue → Bool
  | count _ => true
  | measure x => x.isFinite

/-! ## Where a text has a point -/

theorem point_mem_writePositional (ds : List Char) (exponent : Int) :
    '.' ∈ Binary64.writePositional true ds exponent := by
  unfold Binary64.writePositional
  dsimp only
  split
  · simp
  · split <;> simp

theorem point_mem_text_measure {x : Binary64} (hx : x.isFinite = true) :
    '.' ∈ (measure x).text.toList := by
  cases x with
  | nan => cases hx
  | infinite => cases hx
  | finite negative units h =>
    have hpoint := point_mem_writePositional
      (Nat.toDigits 10 (Binary64.shortest .up units).significand)
      (Binary64.shortest .up units).exponent
    cases negative <;>
      simpa [text, Binary64.write, measureStyle, Binary64.withSign, Binary64.writeDecimal]
        using hpoint

theorem point_notMem_text_count (n : UInt64) : '.' ∉ (count n).text.toList := by
  intro h
  rw [text, Nat.toList_repr] at h
  exact absurd (Nat.isDigit_of_mem_toDigits (by decide) (by decide) h) (by decide)

/-! ## Reading a text back -/

theorem parse_text_count (n : UInt64) : parse (count n).text = .ok (count n) := by
  unfold parse
  rw [if_neg (point_notMem_text_count n), text, Nat.toList_repr, readCount_toDigits]

theorem parse_text_measure {x : Binary64} (hx : x.isFinite = true) :
    parse (measure x).text = .ok (measure x) := by
  unfold parse
  rw [if_pos (point_mem_text_measure hx), text, Binary64.ofText?_write rfl hx]

/-- The words for NaN and the infinities are no values. -/
theorem exists_parse_text_eq_error {x : Binary64} (hx : x.isFinite = false) :
    ∃ problem, parse (measure x).text = .error problem := by
  cases x with
  | nan => exact ⟨_, rfl⟩
  | infinite negative => cases negative <;> exact ⟨_, rfl⟩
  | finite => cases hx

/-- A value is read back from its text exactly if it is finite, and as itself. -/
theorem parse_text_eq_ok_iff {v w : MetricValue} :
    parse v.text = .ok w ↔ v.isFinite = true ∧ w = v := by
  cases v with
  | count n => simp [parse_text_count, isFinite, eq_comm]
  | measure x =>
    cases hx : x.isFinite with
    | true => simp [parse_text_measure hx, isFinite, hx, eq_comm]
    | false =>
      obtain ⟨problem, hp⟩ := exists_parse_text_eq_error hx
      simp [hp, isFinite, hx]

theorem text_ne_empty (v : MetricValue) : v.text ≠ "" := by
  intro h
  cases v with
  | count n =>
    have hparse := parse_text_count n
    rw [h] at hparse
    cases hparse
  | measure x =>
    cases hx : x.isFinite with
    | true =>
      have hpoint := point_mem_text_measure hx
      rw [h] at hpoint
      cases hpoint
    | false =>
      cases x with
      | nan => exact absurd h (by decide)
      | infinite negative => cases negative <;> exact absurd h (by decide)
      | finite => cases hx

/-! ## What a text is made of -/

/-- A finite measure is digits with an optional point, behind a minus sign if it is
    negative. -/
theorem exists_plain_text_measure (negative : Bool) {units : Nat} (h : Representable units) :
    ∃ cs d, Binary64.Plain cs d ∧
      (measure (.finite negative units h)).text.toList = if negative then '-' :: cs else cs := by
  obtain ⟨d, hplain, -⟩ := Binary64.exists_plain_writePositional true Nat.toDigits_ne_nil
    (Binary64.allDigits_toDigits (Binary64.shortest .up units).significand)
    (Binary64.shortest .up units).exponent
  refine ⟨_, d, hplain, ?_⟩
  simp [text, Binary64.write, measureStyle, Binary64.withSign, Binary64.writeDecimal]

/-- Besides digits, a text has a point, a minus sign and the letters of the words for
    what is no finite number. -/
theorem isDigit_or_mem_of_mem_text {v : MetricValue} {c : Char} (hc : c ∈ v.text.toList) :
    c.isDigit = true ∨ c ∈ ['.', '-', 'N', 'a', 'i', 'n', 'f'] := by
  cases v with
  | count n =>
    rw [text, Nat.toList_repr] at hc
    exact .inl (Nat.isDigit_of_mem_toDigits (by decide) (by decide) hc)
  | measure x =>
    cases x with
    | nan =>
      have hletters : (measure .nan).text.toList.all (· ∈ ['.', '-', 'N', 'a', 'i', 'n', 'f']) := by
        decide
      exact .inr (of_decide_eq_true (List.all_eq_true.1 hletters c hc))
    | infinite negative =>
      have hletters : (measure (.infinite negative)).text.toList.all
          (· ∈ ['.', '-', 'N', 'a', 'i', 'n', 'f']) := by cases negative <;> decide
      exact .inr (of_decide_eq_true (List.all_eq_true.1 hletters c hc))
    | finite negative units h =>
      obtain ⟨cs, d, hplain, htext⟩ := exists_plain_text_measure negative h
      rw [htext] at hc
      have hmem : c = '-' ∨ c ∈ cs := by
        cases negative with
        | true => exact List.mem_cons.1 hc
        | false => exact .inr hc
      rcases hmem with rfl | hmem
      · exact .inr (by decide)
      · exact (hplain.isDigit_or_eq_point hmem).imp_right fun hpoint => by rw [hpoint]; decide

/-- A character of none of these kinds is in no text. -/
theorem notMem_text (v : MetricValue) {c : Char} (hdigit : c.isDigit = false)
    (hother : c ∉ ['.', '-', 'N', 'a', 'i', 'n', 'f']) : c ∉ v.text.toList := by
  intro hc
  rcases isDigit_or_mem_of_mem_text hc with h | h
  · rw [hdigit] at h
    cases h
  · exact hother h

/-- A point marks the finite measures. -/
theorem point_mem_text_iff {v : MetricValue} :
    '.' ∈ v.text.toList ↔ ∃ x, v = measure x ∧ x.isFinite = true := by
  constructor
  · intro h
    cases v with
    | count n => exact absurd h (point_notMem_text_count n)
    | measure x =>
      cases x with
      | nan => exact absurd h (by decide)
      | infinite negative => cases negative <;> exact absurd h (by decide)
      | finite => exact ⟨_, rfl, rfl⟩
  · rintro ⟨x, rfl, hx⟩
    exact point_mem_text_measure hx

/-- **The text of a value keeps its kind and its number.**  It is not empty, and may
    stand between commas and on a line without quotes.  The finite measures have a
    point in it, and nothing else has.  Read again it gives a value exactly if that
    is finite, namely the value it was made from; the sign of a zero is kept. -/
theorem text_keeps_kind_and_number (v : MetricValue) :
    v.text ≠ "" ∧
    (',' ∉ v.text.toList ∧ '"' ∉ v.text.toList ∧ '\r' ∉ v.text.toList ∧ '\n' ∉ v.text.toList) ∧
    ('.' ∈ v.text.toList ↔ ∃ x, v = measure x ∧ x.isFinite = true) ∧
    (∀ w, parse v.text = .ok w ↔
      ((∃ n, v = count n) ∨ ∃ x, v = measure x ∧ x.isFinite = true) ∧ w = v) ∧
    ((∃ problem, parse v.text = .error problem) ↔ ∃ x, v = measure x ∧ x.isFinite = false) := by
  have hfinite : v.isFinite = true ↔
      (∃ n, v = count n) ∨ ∃ x, v = measure x ∧ x.isFinite = true := by
    cases v <;> simp [isFinite]
  have hnonfinite : v.isFinite = false ↔ ∃ x, v = measure x ∧ x.isFinite = false := by
    cases v <;> simp [isFinite]
  refine ⟨v.text_ne_empty, ⟨?_, ?_, ?_, ?_⟩, point_mem_text_iff, fun w => ?_, ?_⟩
  · exact v.notMem_text (by decide) (by decide)
  · exact v.notMem_text (by decide) (by decide)
  · exact v.notMem_text (by decide) (by decide)
  · exact v.notMem_text (by decide) (by decide)
  · rw [parse_text_eq_ok_iff, hfinite]
  · rw [← hnonfinite]
    cases hparse : parse v.text with
    | ok w => simp [(parse_text_eq_ok_iff.1 hparse).1]
    | error problem =>
      refine iff_of_true ⟨problem, rfl⟩ (Bool.eq_false_iff.2 fun hv => ?_)
      rw [parse_text_eq_ok_iff.2 ⟨hv, rfl⟩] at hparse
      cases hparse

end MetricValue

end PolicyBench
