/-
  PolicyBench — the columns of the summary.

  The lines of a table are in columns: each policy and each text stands at the same
  characters in every line, filled with spaces and never cut.  Widths are counted in
  bytes and lines in characters, of which a text has no more.

  * `IsWidest`: a width is that of the widest of some texts;
  * `field`: what stands at some characters of a line, `columnStart`: where a column
    begins, `lineLength`: how long the lines are;
  * `InColumns`: a line shows a policy and texts in columns, `inColumns_tableLine`: a
    line of the table does;
  * `Table.ShownBy`: a text shows the table, `Table.shownBy_lines`: its lines do.
-/
import Mathlib.Algebra.GroupWithZero.Nat
import Mathlib.Data.List.Forall2
import PolicyBench.Summary
import PolicyBench.Text.Utf8

namespace PolicyBench

open Text (padEnd padStart)

/-! ## Widths -/

/-- A text has no more characters than bytes. -/
theorem length_le_utf8ByteSize (s : String) : s.length ≤ s.utf8ByteSize := by
  have hbytes : s.utf8ByteSize = (Text.utf8 s).length := by
    rw [← String.size_toByteArray, ← Text.toByteArray_utf8, List.size_toByteArray]
  rw [hbytes, Text.utf8, ← String.length_toList]
  induction s.toList with
  | nil => exact Nat.le_refl _
  | cons c cs ih =>
    rw [List.flatMap_cons, List.length_append, String.length_utf8EncodeChar, List.length_cons]
    have := c.utf8Size_pos
    omega

/-- The width is the number of bytes of the longest of the texts. -/
structure IsWidest (texts : List String) (width : Nat) : Prop where
  attained : ∃ s ∈ texts, s.utf8ByteSize = width
  bound : ∀ s ∈ texts, s.utf8ByteSize ≤ width

theorem isWidest_widest {texts : List String} (h : texts ≠ []) : IsWidest texts (widest texts) := by
  refine ⟨?_, fun s hs => le_widest hs⟩
  induction texts with
  | nil => exact absurd rfl h
  | cons s rest ih =>
    have hwidest : widest (s :: rest) = max s.utf8ByteSize (widest rest) := rfl
    rw [hwidest]
    rcases Nat.le_total (widest rest) s.utf8ByteSize with hs | hrest
    · exact ⟨s, List.mem_cons_self, (Nat.max_eq_left hs).symm⟩
    · rw [Nat.max_eq_right hrest]
      rcases rest with _ | ⟨t, rest⟩
      · exact ⟨s, List.mem_cons_self, Nat.le_antisymm hrest (Nat.zero_le _) ▸ rfl⟩
      · obtain ⟨u, hu, hwidth⟩ := ih (List.cons_ne_nil _ _)
        exact ⟨u, List.mem_cons_of_mem _ hu, hwidth⟩

theorem IsWidest.length_le {texts : List String} {width : Nat} (h : IsWidest texts width)
    {s : String} (hs : s ∈ texts) : s.length ≤ width :=
  Nat.le_trans (length_le_utf8ByteSize s) (h.bound s hs)

/-! ## Lines -/

/-- What stands at the characters of a line from `start` on. -/
def field (line : String) (start width : Nat) : List Char := (line.toList.drop start).take width

theorem field_eq {line : String} {before part after : List Char} {start width : Nat}
    (hline : line.toList = before ++ (part ++ after)) (hstart : before.length = start)
    (hwidth : part.length = width) : field line start width = part := by
  rw [field, hline, List.drop_left' hstart, List.take_left' hwidth]

/-- The length of the lines. -/
def lineLength (policyWidth : Nat) (widths : List Nat) : Nat :=
  policyWidth + 2 + widths.sum + 2 * (widths.length - 1)

/-- The character at which a column begins. -/
def columnStart (policyWidth : Nat) (widths : List Nat) (j : Nat) : Nat :=
  policyWidth + 2 + (widths.take j).sum + 2 * j

/-- A line shows a policy and texts in columns of these widths. -/
structure InColumns (policyWidth : Nat) (widths : List Nat) (policy : String) (texts : List String)
    (line : String) : Prop where
  length : line.length = lineLength policyWidth widths
  policyFits : policy.length ≤ policyWidth
  textsFit : List.Forall₂ (fun width (text : String) => text.length ≤ width) widths texts
  /-- the policy stands at the beginning, filled on the right -/
  policyAt : field line 0 policyWidth =
    policy.toList ++ List.replicate (policyWidth - policy.length) ' '
  /-- each text stands in its column, filled on the left -/
  textAt : ∀ j width text, widths[j]? = some width → texts[j]? = some text →
    field line (columnStart policyWidth widths j) width =
      List.replicate (width - text.length) ' ' ++ text.toList
  /-- and two spaces before it -/
  gapAt : ∀ j, j < widths.length →
    field line (columnStart policyWidth widths j - 2) 2 = [' ', ' ']

/-! ## Lists with gaps -/

section
variable {α : Type} (gap : List α)

/-- With a gap before it too, a list with gaps is one of parts that begin with a gap. -/
theorem append_intercalate {parts : List (List α)} (h : parts ≠ []) :
    gap ++ gap.intercalate parts = parts.flatMap (gap ++ ·) := by
  induction parts with
  | nil => exact absurd rfl h
  | cons part rest ih =>
    rcases rest with _ | ⟨next, rest⟩
    · rw [List.intercalate_singleton, List.flatMap_cons, List.flatMap_nil, List.append_nil]
    · rw [List.intercalate_cons_cons, List.flatMap_cons, ← ih (List.cons_ne_nil _ _)]
      simp only [List.append_assoc]

theorem length_flatMap_gap (parts : List (List α)) :
    (parts.flatMap (gap ++ ·)).length =
      (parts.map List.length).sum + parts.length * gap.length := by
  induction parts with
  | nil => simp
  | cons part rest ih =>
    rw [List.flatMap_cons, List.length_append, List.length_append, ih, List.map_cons, List.sum_cons,
      List.length_cons, Nat.succ_mul]
    omega

/-- What is before a part, and after it. -/
theorem flatMap_gap_split {parts : List (List α)} {j : Nat} {part : List α}
    (h : parts[j]? = some part) :
    parts.flatMap (gap ++ ·) = (parts.take j).flatMap (gap ++ ·) ++
      (gap ++ (part ++ (parts.drop (j + 1)).flatMap (gap ++ ·))) := by
  obtain ⟨hj, rfl⟩ := List.getElem?_eq_some_iff.1 h
  conv_lhs => rw [← List.take_append_drop j parts, List.drop_eq_getElem_cons hj]
  rw [List.flatMap_append, List.flatMap_cons, List.append_assoc]

end

/-! ## The lines of a table -/

section
variable {policyWidth : Nat} {widths : List Nat} {policy : String} {texts : List String}

theorem toList_padEnd (width : Nat) (s : String) :
    (padEnd width s).toList = s.toList ++ List.replicate (width - s.length) ' ' := by
  rw [padEnd, String.toList_append, String.toList_ofList]

theorem toList_padStart (width : Nat) (s : String) :
    (padStart width s).toList = List.replicate (width - s.length) ' ' ++ s.toList := by
  rw [padStart, String.toList_append, String.toList_ofList]

/-- The texts as they stand in a line. -/
def filledTexts (widths : List Nat) (texts : List String) : List (List Char) :=
  (List.zipWith padStart widths texts).map String.toList

theorem toList_tableLine : (tableLine policyWidth widths policy texts).toList =
    (padEnd policyWidth policy).toList ++
      ([' ', ' '] ++ [' ', ' '].intercalate (filledTexts widths texts)) := by
  have hgap : "  ".toList = [' ', ' '] := rfl
  rw [tableLine, String.toList_append, String.toList_append, String.toList_intercalate, hgap,
    List.append_assoc, filledTexts]

variable (hpolicy : policy.length ≤ policyWidth)
variable (htexts : List.Forall₂ (fun width (text : String) => text.length ≤ width) widths texts)

include htexts in
theorem map_length_filledTexts : (filledTexts widths texts).map List.length = widths := by
  unfold filledTexts
  induction htexts with
  | nil => rfl
  | @cons width text _ _ hfits _ ih =>
    rw [List.zipWith_cons_cons, List.map_cons, List.map_cons, ih, String.length_toList,
      Text.length_padStart, Nat.max_eq_left hfits]

include htexts in
theorem length_filledTexts : (filledTexts widths texts).length = widths.length :=
  (List.length_map _).symm.trans (congrArg List.length (map_length_filledTexts htexts))

include hpolicy in
theorem length_filledPolicy : (padEnd policyWidth policy).toList.length = policyWidth := by
  rw [String.length_toList, Text.length_padEnd, Nat.max_eq_left hpolicy]

include hpolicy htexts

theorem length_tableLine :
    (tableLine policyWidth widths policy texts).length = lineLength policyWidth widths := by
  rw [← String.length_toList, toList_tableLine, List.length_append, length_filledPolicy hpolicy,
    lineLength]
  rcases Nat.eq_zero_or_pos widths.length with hnone | hsome
  · obtain rfl := List.eq_nil_of_length_eq_zero hnone
    obtain rfl := List.length_eq_zero_iff.1 (htexts.length_eq ▸ hnone)
    rfl
  · have hne : filledTexts widths texts ≠ [] :=
      List.ne_nil_of_length_pos (length_filledTexts htexts ▸ hsome)
    rw [append_intercalate _ hne, length_flatMap_gap, map_length_filledTexts htexts,
      length_filledTexts htexts]
    simp only [List.length_cons, List.length_nil]
    omega

/-- Before a text and its gap there are the policy and the columns before it, with
    their gaps. -/
theorem tableLine_split {j : Nat} {part : List Char}
    (hpart : (filledTexts widths texts)[j]? = some part) :
    ∃ before after, (tableLine policyWidth widths policy texts).toList =
        before ++ ([' ', ' '] ++ (part ++ after)) ∧
      before.length + 2 = columnStart policyWidth widths j := by
  have hj : j < (filledTexts widths texts).length := (List.getElem?_eq_some_iff.1 hpart).1
  have hline : (tableLine policyWidth widths policy texts).toList = _ := toList_tableLine
  rw [append_intercalate _ (List.ne_nil_of_length_pos (by omega)), flatMap_gap_split _ hpart,
    ← List.append_assoc] at hline
  refine ⟨_, _, hline, ?_⟩
  rw [List.length_append, length_filledPolicy hpolicy, length_flatMap_gap, List.map_take,
    map_length_filledTexts htexts, List.length_take_of_le (Nat.le_of_lt hj), columnStart]
  simp only [List.length_cons, List.length_nil]
  omega

/-- Texts that are not longer than their columns are shown in columns. -/
theorem inColumns_tableLine :
    InColumns policyWidth widths policy texts (tableLine policyWidth widths policy texts) := by
  refine ⟨length_tableLine hpolicy htexts, hpolicy, htexts, ?policyAt, ?textAt, ?gapAt⟩
  case policyAt =>
    rw [← toList_padEnd]
    exact field_eq (toList_tableLine.trans (List.nil_append _).symm) rfl
      (length_filledPolicy hpolicy)
  case textAt =>
    intro j width text hwidth htext
    have hpart : (filledTexts widths texts)[j]? = some (padStart width text).toList := by
      rw [filledTexts, List.getElem?_map, List.getElem?_zipWith, hwidth, htext]
      rfl
    have hlength : ((filledTexts widths texts).map List.length)[j]? = some width := by
      rw [map_length_filledTexts htexts, hwidth]
    rw [List.getElem?_map, hpart] at hlength
    obtain ⟨before, after, hline, hstart⟩ := tableLine_split hpolicy htexts hpart
    rw [← List.append_assoc] at hline
    rw [← toList_padStart]
    exact field_eq hline (by rw [List.length_append]; exact hstart) (Option.some.inj hlength)
  case gapAt =>
    intro j hj
    rw [← length_filledTexts htexts] at hj
    obtain ⟨before, after, hline, hstart⟩ :=
      tableLine_split hpolicy htexts (List.getElem?_eq_getElem hj)
    exact field_eq hline (by omega) rfl

end

/-! ## The table -/

namespace Table

/-- The widths are those of the widest texts, heading and rows, of the policies and of
    each column. -/
structure HasWidths (table : Table) (policyWidth : Nat) (widths : List Nat) : Prop where
  policies : IsWidest (policyHeading :: table.rows.map Row.policy) policyWidth
  columns : List.Forall₂
    (fun column => IsWidest (column :: table.rows.map fun row => cellText row column))
    table.columns widths

/-- The text shows the table: a line for the headings and one for each row, in order,
    each ended by a line feed and all in the same columns. -/
def ShownBy (table : Table) (text : String) : Prop :=
  ∃ policyWidth widths headings lines,
    table.HasWidths policyWidth widths ∧
    InColumns policyWidth widths policyHeading table.columns headings ∧
    List.Forall₂ (fun row line =>
        InColumns policyWidth widths row.policy (table.columns.map (cellText row)) line)
      table.rows lines ∧
    text = String.join ((headings :: lines).map (· ++ "\n"))

theorem hasWidths (table : Table) : table.HasWidths (policyWidth table) (columnWidths table) where
  policies := isWidest_widest (List.cons_ne_nil _ _)
  columns := by
    rw [columnWidths, List.forall₂_map_right_iff, List.forall₂_same]
    exact fun column _ => isWidest_widest (List.cons_ne_nil _ _)

/-- Texts of the columns are not longer than these are wide. -/
theorem textsFit (table : Table) {text : String → String}
    (h : ∀ column ∈ table.columns,
      text column ∈ column :: table.rows.map fun row => cellText row column) :
    List.Forall₂ (fun width (s : String) => s.length ≤ width) (columnWidths table)
      (table.columns.map text) := by
  rw [columnWidths, List.forall₂_map_left_iff, List.forall₂_map_right_iff, List.forall₂_same]
  exact fun column hcolumn => (isWidest_widest (List.cons_ne_nil _ _)).length_le (h column hcolumn)

/-- The lines of a table show it. -/
theorem shownBy_lines (table : Table) :
    table.ShownBy (String.join ((tableLines table).map (· ++ "\n"))) := by
  refine ⟨_, _, _, _, table.hasWidths, ?_, ?_, rfl⟩
  · refine inColumns_tableLine (table.hasWidths.policies.length_le List.mem_cons_self) ?_
    have hfit : List.Forall₂ _ (columnWidths table) (table.columns.map id) :=
      table.textsFit fun column _ => List.mem_cons_self
    rwa [List.map_id] at hfit
  · rw [List.forall₂_map_right_iff, List.forall₂_same]
    intro row hrow
    refine inColumns_tableLine (table.hasWidths.policies.length_le
      (List.mem_cons_of_mem _ (List.mem_map_of_mem hrow))) (table.textsFit fun column _ => ?_)
    exact List.mem_cons_of_mem _ (List.mem_map_of_mem hrow)

theorem ShownBy.ne_empty {table : Table} {text : String} (h : table.ShownBy text) :
    text ≠ "" := by
  obtain ⟨_, _, headings, lines, -, -, -, rfl⟩ := h
  intro hempty
  rw [List.map_cons, String.join_cons, String.append_eq_empty_iff, String.append_eq_empty_iff]
    at hempty
  exact absurd hempty.1.2 (by decide)

end Table

end PolicyBench
