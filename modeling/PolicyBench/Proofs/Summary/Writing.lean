/-
  PolicyBench — how the summary is written.

  A table is shown in columns, whole, as long as none of its texts has more bytes than
  a text can be filled to.  With such a text the writing breaks off, and what has been
  written is a first part of the table.

  * `Table.Fits`: no text is too long;
  * `Writes`: what writing some pieces comes to, with one lemma for each way in which
    pieces are put together;
  * `writes_tablePieces`, `writes_summaryPieces`: the table and the summary are
    written so;
  * `Table.shown_in_columns`: what is shown of any table.
-/
import PolicyBench.Proofs.Summary.Columns

namespace PolicyBench

open Text (padEnd padStart)

/-! ## Texts that are not too long -/

/-- No text of the table has more bytes than a text can be filled to. -/
def Table.Fits (table : Table) : Prop :=
  (∀ row ∈ table.rows, row.policy.utf8ByteSize ≤ maxWidth) ∧
    ∀ column ∈ table.columns, column.utf8ByteSize ≤ maxWidth ∧
      ∀ row ∈ table.rows, (cellText row column).utf8ByteSize ≤ maxWidth

instance (table : Table) : Decidable table.Fits :=
  inferInstanceAs (Decidable ((∀ row ∈ table.rows, _) ∧ ∀ column ∈ table.columns, _ ∧ _))

theorem widest_le_iff {texts : List String} {n : Nat} :
    widest texts ≤ n ↔ ∀ s ∈ texts, s.utf8ByteSize ≤ n := by
  induction texts with
  | nil => exact iff_of_true (Nat.zero_le n) nofun
  | cons s rest ih =>
    have hwidest : widest (s :: rest) = max s.utf8ByteSize (widest rest) := rfl
    rw [hwidest, Nat.max_le, ih, List.forall_mem_cons]

theorem Table.fits_iff {table : Table} : table.Fits ↔ policyWidth table ≤ maxWidth ∧
    ∀ column ∈ table.columns, columnWidth table column ≤ maxWidth := by
  have hheading : policyHeading.utf8ByteSize ≤ maxWidth := by decide
  simp only [Table.Fits, policyWidth, columnWidth, widest_le_iff, List.forall_mem_cons,
    List.forall_mem_map, hheading, true_and]

/-! ## Pieces -/

/-- Written in these pieces the text appears whole if `fits`, and is broken off if not. -/
structure Writes (pieces : List (Option String)) (text : String) (fits : Prop) : Prop where
  whole : fits → Written.ofPieces pieces = ⟨text, true⟩
  brokenOff : ¬ fits → ∃ shown rest, rest ≠ "" ∧ text = shown ++ rest ∧
    Written.ofPieces pieces = ⟨shown, false⟩

theorem Written.ofPieces_append (pieces later : List (Option String)) :
    ofPieces (pieces ++ later) =
      if (ofPieces pieces).complete then
        ⟨(ofPieces pieces).text ++ (ofPieces later).text, (ofPieces later).complete⟩
      else ofPieces pieces := by
  induction pieces with
  | nil => exact congrArg (Written.mk · _) String.empty_append.symm
  | cons piece rest ih =>
    cases piece with
    | none => rfl
    | some piece =>
      rw [List.cons_append, ofPieces, ih, ofPieces]
      dsimp only
      split
      · rw [String.append_assoc]
      · rfl

namespace Writes

variable {pieces later : List (Option String)} {text last : String} {fits fits' : Prop}

theorem congr (h : Writes pieces text fits) (hfits : fits ↔ fits') : Writes pieces text fits' :=
  propext hfits ▸ h

/-- Pieces, and pieces behind them. -/
theorem append (h : Writes pieces text fits) (hlater : Writes later last fits') :
    Writes (pieces ++ later) (text ++ last) (fits ∧ fits') where
  whole := fun ⟨hfits, hfits'⟩ => by
    rw [Written.ofPieces_append, h.whole hfits, hlater.whole hfits']
    rfl
  brokenOff := fun hbroken => by
    by_cases hfits : fits
    · obtain ⟨shown, rest, hrest, rfl, hwritten⟩ :=
        hlater.brokenOff fun hfits' => hbroken ⟨hfits, hfits'⟩
      refine ⟨text ++ shown, rest, hrest, String.append_assoc.symm, ?_⟩
      rw [Written.ofPieces_append, h.whole hfits, hwritten]
      rfl
    · obtain ⟨shown, rest, hrest, rfl, hwritten⟩ := h.brokenOff hfits
      refine ⟨shown, rest ++ last, ?_, String.append_assoc, ?_⟩
      · exact fun hempty => hrest (String.append_eq_empty_iff.1 hempty).1
      · rw [Written.ofPieces_append, hwritten]
        rfl

theorem nil : Writes [] "" True := ⟨fun _ => rfl, fun h => absurd trivial h⟩

/-- A piece that can always be had. -/
theorem given (text : String) : Writes [some text] text True :=
  ⟨fun _ => congrArg (Written.mk · true) String.append_empty, fun h => absurd trivial h⟩

/-- A text that is filled. -/
theorem filled {fill : Nat → String → String} {width : Nat}
    (hfill : width ≤ (fill width text).length) :
    Writes [filled? fill width text] (fill width text) (width ≤ maxWidth) where
  whole := fun hwidth => by
    rw [filled?, if_pos hwidth]
    exact (given _).whole trivial
  brokenOff := fun hwidth => by
    rw [filled?, if_neg hwidth]
    refine ⟨"", fill width text, fun hempty => ?_, String.empty_append.symm, rfl⟩
    rw [hempty, String.length_empty] at hfill
    exact hwidth (Nat.le_trans hfill (Nat.zero_le _))

section
variable {α : Type} {xs : List α} {part : α → String} {fitting : α → Prop}

/-- Pieces of one thing after the other. -/
theorem flatMap {parts : α → List (Option String)}
    (h : ∀ x ∈ xs, Writes (parts x) (part x) (fitting x)) :
    Writes (xs.flatMap parts) (String.join (xs.map part)) (∀ x ∈ xs, fitting x) := by
  induction xs with
  | nil => exact nil.congr (iff_of_true trivial nofun)
  | cons x rest ih =>
    obtain ⟨hx, hrest⟩ := List.forall_mem_cons.1 h
    rw [List.flatMap_cons, List.map_cons, String.join_cons]
    exact (hx.append (ih hrest)).congr List.forall_mem_cons.symm

/-- Single pieces, with a gap between them. -/
theorem intersperse (gap : String) {piece : α → Option String}
    (h : ∀ x ∈ xs, Writes [piece x] (part x) (fitting x)) :
    Writes ((xs.map piece).intersperse (some gap)) (gap.intercalate (xs.map part))
      (∀ x ∈ xs, fitting x) := by
  induction xs with
  | nil => exact nil.congr (iff_of_true trivial nofun)
  | cons x rest ih =>
    obtain ⟨hx, hrest⟩ := List.forall_mem_cons.1 h
    rcases rest with _ | ⟨y, rest⟩
    · exact hx.congr (List.forall_mem_singleton).symm
    · have hall := (hx.append (given gap)).append (ih hrest)
      rw [and_true, ← List.forall_mem_cons] at hall
      simpa only [List.map_cons, List.intersperse_cons_cons, String.intercalate_cons_cons,
        List.cons_append, List.nil_append] using hall

end

end Writes

/-! ## The table and the summary -/

/-- The pieces of a line of a table. -/
theorem writes_linePieces (table : Table) (policy : String) (text : String → String) :
    Writes
      (linePieces (policyWidth table) (columnWidths table) policy (table.columns.map text))
      (tableLine (policyWidth table) (columnWidths table) policy (table.columns.map text) ++ "\n")
      table.Fits := by
  have hpolicy : Writes [filled? padEnd (policyWidth table) policy]
      (padEnd (policyWidth table) policy) (policyWidth table ≤ maxWidth) :=
    .filled (Text.length_padEnd _ _ ▸ Nat.le_max_left _ _)
  have htext : ∀ column ∈ table.columns,
      Writes [filled? padStart (columnWidth table column) (text column)]
        (padStart (columnWidth table column) (text column))
        (columnWidth table column ≤ maxWidth) :=
    fun _ _ => .filled (Text.length_padStart _ _ ▸ Nat.le_max_left _ _)
  have htexts := Writes.intersperse "  " htext
  have hline := ((hpolicy.append (.given "  ")).append htexts).append (.given "\n")
  rw [linePieces, tableLine, columnWidths, List.zipWith_map, List.zipWith_self, List.zipWith_map,
    List.zipWith_self]
  refine hline.congr ?_
  rw [Table.fits_iff, and_true, and_true]

/-- The pieces of a table. -/
theorem writes_tablePieces (table : Table) :
    Writes (tablePieces table) (String.join ((tableLines table).map (· ++ "\n"))) table.Fits := by
  have hheadings := writes_linePieces table policyHeading id
  have hrows := Writes.flatMap fun row (_ : row ∈ table.rows) =>
    writes_linePieces table row.policy (cellText row)
  rw [tableLines, List.map_cons, String.join_cons, List.map_map]
  rw [List.map_id] at hheadings
  exact (hheadings.append hrows).congr ⟨And.left, fun h => ⟨h, fun _ _ => h⟩⟩

/-- The pieces of a summary. -/
theorem writes_summaryPieces (table : Table) (comparison : Option Comparison) :
    Writes (summaryPieces table comparison) (summary table comparison) table.Fits := by
  have hcomparison := Writes.flatMap
    fun line (_ : line ∈ (comparison.map comparisonLines).getD []) => Writes.given (line ++ "\n")
  have hall := ((Writes.given "=== Summary ===\n").append (writes_tablePieces table)).append
    hcomparison
  have htitle : String.join (["=== Summary ==="].map (· ++ "\n")) = "=== Summary ===\n" := by decide
  rw [← List.map_eq_flatMap] at hall
  rw [summary, List.map_append, List.map_append, String.join_append, String.join_append, htitle]
  refine hall.congr ⟨fun h => h.1.2, fun h => ⟨⟨trivial, h⟩, fun _ _ => trivial⟩⟩

theorem text_summaryPieces_ne_empty (table : Table) (comparison : Option Comparison) :
    (Written.ofPieces (summaryPieces table comparison)).text ≠ "" := by
  have htitle : "=== Summary ===\n" ≠ "" := by decide
  exact fun hempty => htitle (String.append_eq_empty_iff.1 hempty).1

theorem summary_ne_empty (table : Table) (comparison : Option Comparison) :
    summary table comparison ≠ "" := by
  have htitle : "=== Summary ===" ++ "\n" ≠ "" := by decide
  intro hempty
  rw [summary, List.append_assoc, List.singleton_append, List.map_cons, String.join_cons] at hempty
  exact htitle (String.append_eq_empty_iff.1 hempty).1

/-- With a policy that is too long nothing of a table is written. -/
theorem ofPieces_tablePieces_of_lt {table : Table} (h : maxWidth < policyWidth table) :
    Written.ofPieces (tablePieces table) = ⟨"", false⟩ := by
  have hfirst : filled? padEnd (policyWidth table) policyHeading = none := if_neg (Nat.not_le.2 h)
  rw [tablePieces, linePieces, hfirst]
  rfl

/-- **What is shown of a table.**  There is a text that shows the table in columns.  It
    is written whole if no text of the table is too long; otherwise the writing breaks
    off before its end. -/
theorem Table.shown_in_columns (table : Table) :
    ∃ text, table.ShownBy text ∧
      (table.Fits → Written.ofPieces (tablePieces table) = ⟨text, true⟩) ∧
      (¬ table.Fits → ∃ shown rest, rest ≠ "" ∧ text = shown ++ rest ∧
        Written.ofPieces (tablePieces table) = ⟨shown, false⟩) :=
  ⟨_, table.shownBy_lines, (writes_tablePieces table).whole, (writes_tablePieces table).brokenOff⟩

/-- The table of a policy without values. -/
def Table.ofPolicy (policy : String) : Table where
  columns := []
  rows := [⟨policy, .empty⟩]
  distinct := List.pairwise_singleton ..
  covered := List.forall_mem_singleton.2 nofun

/-- A policy with one letter too many. -/
def overlongPolicy : String := String.ofList (List.replicate 65536 'a')

theorem toList_overlongPolicy : overlongPolicy.toList = List.replicate 65536 'a' :=
  String.toList_ofList

theorem length_overlongPolicy : overlongPolicy.length = 65536 :=
  String.length_ofList.trans List.length_replicate

/-- What is written of its table does not show the table. -/
theorem overlongPolicy_not_shown : ¬ (Table.ofPolicy overlongPolicy).ShownBy
    (Written.ofPieces (tablePieces (.ofPolicy overlongPolicy))).text := by
  have hlength := length_overlongPolicy
  generalize overlongPolicy = policy at hlength ⊢
  have hwide : maxWidth < policyWidth (.ofPolicy policy) :=
    calc maxWidth < policy.length := by rw [hlength]; decide
      _ ≤ policyWidth (.ofPolicy policy) :=
        (Table.ofPolicy policy).hasWidths.policies.length_le
          (List.mem_cons_of_mem _ List.mem_cons_self)
  rw [ofPieces_tablePieces_of_lt hwide]
  exact fun hshown => hshown.ne_empty rfl

end PolicyBench
