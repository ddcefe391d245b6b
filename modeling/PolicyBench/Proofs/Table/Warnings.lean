/-
  PolicyBench — tables that are built without a warning.

  From the cycles of a policy three values can be derived.  Whatever keeps one of
  them from being finite is reported, and nothing else is.

  * `Row.Complete`: a row with cycles has all of the derived values;
  * `quiet_derive_iff`: nothing is reported exactly if all of them are there;
  * `Table.quiet_ofRuns_iff`: a table is built without a warning exactly if its
    rows are complete.
-/
import PolicyBench.Proofs.Logged
import PolicyBench.Proofs.Table.Schema

namespace PolicyBench

variable {timing : Timing} {run : Run} {runs : List Run}

/-- Where the cycles are there, so is all that is derived from them. -/
def Row.Complete (row : Row) : Prop :=
  totalCycles ∈ row.values.names → ∀ name ∈ derivedNames, name ∈ row.values.names

/-! ## Derived values -/

/-- A number that is not finite is reported, and no other. -/
theorem quiet_finiteOrReport_iff {x : Binary64} {problem : Event}
    (h : problem.isWarning = true) :
    (finiteOrReport x problem).Quiet ↔ (finiteOrReport x problem).value.isSome = true := by
  unfold finiteOrReport
  cases x.finite? with
  | none => exact iff_of_false (Logged.not_quiet_report_bind h) nofun
  | some x => exact iff_of_true (Logged.quiet_pure _) rfl

/-- Each derived value that is missing is reported. -/
theorem quiet_derive_iff (policy : String) (cycles : UInt64) (ns tokens : Binary64) :
    (derive policy cycles ns tokens).Quiet ↔
      (derive policy cycles ns tokens).value.map Prod.fst = derivedNames := by
  unfold derive
  rw [Logged.quiet_bind_iff, quiet_finiteOrReport_iff rfl, Logged.value_bind]
  cases (finiteOrReport ns (.timeNotFinite policy cycles)).value with
  | none => exact iff_of_false (fun h => nomatch h.1) nofun
  | some ns =>
    dsimp only
    rw [and_iff_right Option.isSome_some]
    split
    · exact iff_of_false (Logged.not_quiet_report_bind rfl) nofun
    · rw [Logged.quiet_bind_iff, quiet_finiteOrReport_iff rfl, Logged.value_bind]
      cases (finiteOrReport (tokens / (ns / nanosecondsPerSecond))
        (.throughputNotFinite policy (ns / nanosecondsPerSecond))).value with
      | none => exact iff_of_false (fun h => nomatch h.1) nofun
      | some rate => exact iff_of_true ⟨rfl, Logged.quiet_pure _⟩ rfl

theorem Run.quiet_derived_iff : (run.derived timing).Quiet ↔
    (totalCycles ∈ run.metrics.names →
      (run.derived timing).value.map Prod.fst = derivedNames) := by
  rw [NameMap.mem_names_iff]
  unfold derived
  cases run.metrics.get? totalCycles with
  | none => exact iff_of_true (Logged.quiet_pure _) nofun
  | some cycles =>
    dsimp only
    rw [quiet_derive_iff]
    exact (imp_iff_right Option.isSome_some).symm

/-! ## Rows -/

/-- All derived values are there exactly if each of them is. -/
theorem Run.names_derived_eq_iff : (run.derived timing).value.map Prod.fst = derivedNames ↔
    ∀ name ∈ derivedNames, name ∈ (run.derived timing).value.map Prod.fst := by
  refine ⟨fun h name hname => by rwa [h], fun h => ?_⟩
  exact names_derived_prefix.eq_of_length_le (derivedNames_nodup.length_le_of_subset h)

/-- A row is made without a warning exactly if it is complete. -/
theorem Run.quiet_row_iff (h : run.RawOnly) :
    (run.row timing).Quiet ↔ (run.row timing).value.Complete := by
  have hcycles : totalCycles ∈ (run.row timing).value.values.names ↔
      totalCycles ∈ run.metrics.names := by
    rw [mem_names_row]
    refine or_iff_right fun hmem => ?_
    have hderived : totalCycles ∈ derivedNames := names_derived_prefix.subset hmem
    exact absurd hderived (by decide)
  have hderived : (∀ name ∈ derivedNames, name ∈ (run.row timing).value.values.names) ↔
      (run.derived timing).value.map Prod.fst = derivedNames := by
    rw [names_derived_eq_iff]
    exact forall₂_congr fun name hname => h.mem_names_row_of_mem hname
  rw [Row.Complete, hcycles, hderived, ← quiet_derived_iff, row, Logged.quiet_bind_iff]
  exact and_iff_left (Logged.quiet_pure _)

theorem quiet_rowsOf_iff (h : ∀ run ∈ runs, run.RawOnly) :
    (rowsOf timing runs).Quiet ↔ ∀ row ∈ (rowsOf timing runs).value, row.Complete := by
  induction runs with
  | nil => exact iff_of_true (Logged.quiet_pure _) (List.forall_mem_nil _)
  | cons run rest ih =>
    obtain ⟨hrun, hrest⟩ := List.forall_mem_cons.1 h
    rw [value_rowsOf, List.map_cons, List.forall_mem_cons, ← value_rowsOf, ← ih hrest,
      ← Run.quiet_row_iff hrun, rowsOf, Logged.quiet_bind_iff, Logged.quiet_bind_iff]
    exact and_congr_right fun _ => and_iff_left (Logged.quiet_pure _)

/-- **A table is built without a warning exactly if its rows are complete.** -/
theorem Table.quiet_ofRuns_iff {table : Table} (hraw : ∀ run ∈ runs, run.RawOnly)
    (h : (Table.ofRuns timing runs).value = .ok table) :
    (Table.ofRuns timing runs).Quiet ↔ ∀ row ∈ table.rows, row.Complete := by
  rw [(value_ofRuns_eq_ok_iff.1 h).2, ← quiet_rowsOf_iff hraw, ofRuns, Logged.quiet_bind_iff]
  exact and_iff_left (Logged.quiet_pure _)

end PolicyBench
