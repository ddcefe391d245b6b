/-
  PolicyBench — logs that are read without a warning.

  A log may lack metrics, and a line may say nothing.  A warning is due only where
  a number is found that is no count, and it is due wherever one is looked at, also
  if its metric has a value already.

  * `Scalar.Fits`, `LineFits`, `Block.Fits`: the numbers that are looked at are
    counts;
  * `SimLog.Fits`: those of the whole log are;
  * `quiet_readValue_iff`, `quiet_readLines_iff`: one number, and the lines of a
    block;
  * `quiet_read_iff`: a log is read without a warning exactly if its numbers are
    counts.
-/
import PolicyBench.Proofs.Logged
import PolicyBench.Proofs.SimLog.Metrics

namespace PolicyBench.SimLog

/-! ## Numbers that are counts -/

/-- The number of the scalar, if there is one, is a count. -/
def Scalar.Fits (scalar : Scalar) (cs : List Char) : Prop :=
  ∀ digits, FirstFound (LabelledNumber (scalar.labels.map String.toList) cs) digits →
    ∃ n, Counts digits n

/-- The number in the line, if there is one, is a count. -/
def LineFits (line : List Char) : Prop :=
  ∀ entry, FirstFound (LineEntry line) entry → ∃ n, Counts entry.2 n

/-- The numbers in the body of the block, if there is one, are counts. -/
def Block.Fits (block : Block) (cs : List Char) : Prop :=
  ∀ body, BodyAfter block.header.toList cs body → ∀ line ∈ Text.lines body, LineFits line

/-- The numbers of the scalars and in the blocks of the log are counts. -/
structure Fits (text : String) : Prop where
  scalars : ∀ scalar ∈ scalars, scalar.Fits text.toList
  blocks : ∀ block ∈ blocks, block.Fits text.toList

/-! ## Reading -/

variable {cs digits : List Char}

/-- A number without a value is reported, and no other. -/
theorem quiet_readValue_iff (h : ColonNumber cs digits) (name : String) :
    (readValue name digits).Quiet ↔ ∃ n, Counts digits n := by
  simp only [← h.toOption_readCount_eq_some_iff]
  unfold readValue
  cases readCount digits with
  | ok n => exact iff_of_true (Logged.quiet_pure _) ⟨n, rfl⟩
  | error problem =>
    refine iff_of_false (Logged.not_quiet_report_bind rfl) ?_
    rintro ⟨n, hn⟩
    cases hn

theorem quiet_read_scalar_iff {scalar : Scalar} (h : scalar ∈ scalars) (cs : List Char) :
    (scalar.read cs).Quiet ↔ scalar.Fits cs := by
  have hlabels := colon_notMem_label h
  simp only [Scalar.Fits, ← labelled?_eq_some_iff hlabels]
  unfold Scalar.read
  cases hfound : labelled? (scalar.labels.map String.toList) cs with
  | none =>
    -- that a scalar is missing is no warning
    exact iff_of_true (Logged.quiet_report_pure rfl _) nofun
  | some digits =>
    obtain ⟨_, ⟨_, _, _, -, hnumber⟩, -⟩ := (labelled?_eq_some_iff hlabels).1 hfound
    simp only [Option.some.injEq, forall_eq']
    exact quiet_readValue_iff hnumber _

/-- The number of every line is looked at, whatever is reported already. -/
theorem quiet_readLines_iff (block : Block) (metrics : Metrics) (list : List (List Char)) :
    (block.readLines metrics list).Quiet ↔ ∀ line ∈ list, LineFits line := by
  induction list generalizing metrics with
  | nil => exact iff_of_true (Logged.quiet_pure _) (List.forall_mem_nil _)
  | cons line rest ih =>
    rw [Block.readLines, List.forall_mem_cons]
    cases hentry : lineEntry? line with
    | none =>
      have hfits : LineFits line := by
        simp only [LineFits, ← lineEntry?_eq_some_iff, hentry]
        intro entry h
        cases h
      rw [and_iff_right hfits]
      exact ih metrics
    | some entry =>
      obtain ⟨_, ⟨_, _, _, _, _, hnumber⟩, -⟩ := lineEntry?_eq_some_iff.1 hentry
      have hline : LineFits line ↔ ∃ n, Counts entry.2 n := by
        simp only [LineFits, ← lineEntry?_eq_some_iff, hentry, Option.some.injEq, forall_eq']
      dsimp only
      rw [Logged.quiet_bind_iff, quiet_readValue_iff hnumber, hline]
      refine and_congr_right fun _ => ?_
      cases (readValue (block.metricName entry.1) entry.2).value with
      | none => exact ih metrics
      | some n => exact ih _

theorem quiet_read_block_iff (block : Block) (cs : List Char) (metrics : Metrics) :
    (block.read cs metrics).Quiet ↔ block.Fits cs := by
  simp only [Block.Fits, ← bodyAfter?_eq_some_iff]
  unfold Block.read
  cases bodyAfter? block.header.toList cs with
  | none =>
    -- that a block is missing is no warning
    exact iff_of_true (Logged.quiet_report_pure rfl _) nofun
  | some body =>
    simp only [Option.some.injEq, forall_eq']
    exact quiet_readLines_iff block metrics (Text.lines body)

theorem quiet_readScalars_iff {list : List Scalar} (hlist : list ⊆ scalars) (cs : List Char)
    (metrics : Metrics) :
    (readScalars cs metrics list).Quiet ↔ ∀ scalar ∈ list, scalar.Fits cs := by
  induction list generalizing metrics with
  | nil => exact iff_of_true (Logged.quiet_pure _) (List.forall_mem_nil _)
  | cons scalar rest ih =>
    obtain ⟨hscalar, hrest⟩ := List.cons_subset.1 hlist
    rw [readScalars, Logged.quiet_bind_iff, quiet_read_scalar_iff hscalar, List.forall_mem_cons]
    refine and_congr_right fun _ => ?_
    cases (scalar.read cs).value with
    | none => exact ih hrest metrics
    | some n => exact ih hrest _

theorem quiet_readBlocks_iff (cs : List Char) (metrics : Metrics) (list : List Block) :
    (readBlocks cs metrics list).Quiet ↔ ∀ block ∈ list, block.Fits cs := by
  induction list generalizing metrics with
  | nil => exact iff_of_true (Logged.quiet_pure _) (List.forall_mem_nil _)
  | cons block rest ih =>
    rw [readBlocks, Logged.quiet_bind_iff, quiet_read_block_iff, ih, List.forall_mem_cons]

/-- **A log is read without a warning exactly if its numbers are counts.** -/
theorem quiet_read_iff {text : String} : (read text).Quiet ↔ Fits text := by
  unfold read
  dsimp only
  rw [Logged.quiet_bind_iff, quiet_readScalars_iff (List.Subset.refl _), quiet_readBlocks_iff]
  exact ⟨fun h => ⟨h.1, h.2⟩, fun h => ⟨h.scalars, h.blocks⟩⟩

-- The second number is reported, although the metric has its value by then.
example : ¬ (read "KV Cache Policy Statistics:\nhits: 1\nhits: 18446744073709551616").Quiet := by
  decide +kernel

end PolicyBench.SimLog
