/-
  PolicyBench — the trace of a run changes nothing else.

  A run that only reads, and writes to its trace, leaves all other files as they
  were; so what it reads later is what it would have read at first, unless it
  reads its own trace.

  * `World.Keeps w fs own`: the files are still `fs`, but for the places of `own`,
    one of which is that of the trace;
  * `keeps_trace`, `keeps_emit`, `keeps_emitAll`: it stays so whatever is traced;
  * `Config.load?`: the configuration that a file gives;
  * `readConfig_keeps`, `collectRuns_keeps`, `analyzePolicies_keeps`: what the steps
    of a run give, by the files that it began with.
-/
import PolicyBench.Cli.World
import PolicyBench.Proofs.Analysis
import PolicyBench.Proofs.FileSystem

namespace PolicyBench.Cli

open FileSystem (ChangedOnly)

/-! ## Steps in turn -/

theorem bind_apply {α β : Type} (x : StateM World α) (f : α → StateM World β) (w : World) :
    (x >>= f) w = f (x w).1 (x w).2 := rfl

/-- The files are still those of `fs`, except at the places of `own`; the trace, if
    there is one, is written to one of these. -/
structure World.Keeps (w : World) (fs : FileSystem) (own : Location → Prop) : Prop where
  files : ChangedOnly own fs w.files
  place : ∀ file, w.traceFile = some file → own file.location

/-! ## The trace -/

section
variable {w : World} {fs : FileSystem} {own : Location → Prop} (h : w.Keeps fs own)
include h

theorem World.Keeps.trace (text : String) : (w.trace text).Keeps fs own := by
  unfold World.trace
  split
  · exact h
  · next file hfile =>
    have hown := h.place file hfile
    refine ⟨h.files.trans ((FileSystem.changedOnly_writeAt _ _ _ _).mono ?_), ?_⟩
    · rintro at_ rfl
      exact hown
    · rintro opened ⟨rfl⟩
      exact hown

theorem emit_keeps (filter : Filter) (e : Event) :
    ((emit filter e : StateM World Unit) w).2.Keeps fs own := by
  unfold emit
  split
  · exact h.trace _
  · exact h

theorem forM_emit_keeps (filter : Filter) (events : List Event) :
    ((events.forM (emit filter) : StateM World PUnit) w).2.Keeps fs own := by
  induction events generalizing w with
  | nil => exact h
  | cons e events ih =>
    exact ih (emit_keeps h filter e)

/-- What is traced of a computation changes nothing about its value. -/
theorem emitAll_keeps {α : Type} (filter : Filter) (x : Logged α) :
    ∃ w', (emitAll filter x : StateM World α) w = (x.value, w') ∧ w'.Keeps fs own :=
  ⟨_, rfl, forM_emit_keeps h filter x.events⟩

end

/-! ## The configuration -/

/-- The configuration of a file that can be read as one, or the default if there is
    none. -/
def loadConfig? (fs : FileSystem) : Option Path → Option Config
  | none => some {}
  | some path => (fs.read path).toOption.bind fun content => (Config.ofJson content).toOption

theorem readFile_apply (path : Path) (w : World) :
    (Host.readFile path : StateM World _) w = (w.files.read path, w) := rfl

/-- Reading the configuration gives what is loaded from the files, and changes nothing. -/
theorem readConfig_apply (file : Option Path) (w : World) :
    ∃ result, (readConfig file : StateM World _) w = (result, w) ∧
      result.toOption = loadConfig? w.files file := by
  cases file with
  | none => exact ⟨.ok {}, rfl, rfl⟩
  | some path =>
    unfold readConfig
    dsimp only
    rw [bind_apply, readFile_apply, loadConfig?]
    cases w.files.read path with
    | error problem =>
      cases problem with
      | opening problem => exact ⟨.error (.openingConfig problem), rfl, rfl⟩
      | reading problem => exact ⟨.error .readingConfig, rfl, rfl⟩
    | ok content =>
      refine ⟨(Config.ofJson content).mapError fun _ => .readingConfig, rfl, ?_⟩
      rw [toOption_mapError]
      rfl

/-- The text of a log is that of the file. -/
theorem readLog_apply (path : Path) (w : World) :
    (readLog path : StateM World _) w = (w.files.readText path, w) := by
  unfold readLog
  rw [bind_apply, readFile_apply, FileSystem.readText]
  cases w.files.read path with
  | error problem => rfl
  | ok content =>
    dsimp only
    cases Text.ofUtf8? content with
    | none => rfl
    | some text => rfl

/-! ## The steps of a run -/

section
variable {w : World} {fs : FileSystem} {own : Location → Prop} (h : w.Keeps fs own)
include h

theorem loadConfig?_keeps {file : Option Path}
    (hfile : ∀ path, file = some path → ∀ at_, fs.locate path = .ok at_ → ¬ own at_) :
    loadConfig? w.files file = loadConfig? fs file := by
  cases file with
  | none => rfl
  | some path =>
    have hread : (w.files.read path).toOption = (fs.read path).toOption :=
      toOption_congr fun content => h.files.read_eq_ok_iff (hfile path rfl)
    rw [loadConfig?, loadConfig?, hread]

theorem collectRuns_keeps (filter : Filter) (config : Config) {policies : List String}
    (hlogs : ∀ policy ∈ policies, ∀ at_, fs.locate (config.logPath policy) = .ok at_ → ¬ own at_) :
    ∃ w', (collectRuns filter config policies : StateM World _) w =
        (policies.map (runOf SimLog.read fs.readText config.logPath), w') ∧ w'.Keeps fs own := by
  induction policies generalizing w with
  | nil => exact ⟨w, rfl, h⟩
  | cons policy policies ih =>
    obtain ⟨hlog, hlogs⟩ := List.forall_mem_cons.1 hlogs
    obtain ⟨w₁, hrun, hw₁⟩ := emitAll_keeps h filter
      (Run.ofLog SimLog.read policy (config.logPath policy)
        (w.files.readText (config.logPath policy)))
    obtain ⟨w₂, hruns, hw₂⟩ := ih hw₁ hlogs
    have hvalue := Run.value_ofLog_congr SimLog.read policy (config.logPath policy)
      fun _ => h.files.readText_eq_ok_iff hlog
    refine ⟨w₂, ?_, hw₂⟩
    rw [collectRuns, bind_apply, readLog_apply]
    dsimp only
    rw [bind_apply, hrun, bind_apply, hruns, hvalue]
    rfl

theorem analyzePolicies_keeps (filter : Filter) {config : Config}
    (hlogs : ∀ policy ∈ config.policies, ∀ at_,
      fs.locate (config.logPath policy) = .ok at_ → ¬ own at_) :
    ∃ w', (analyzePolicies filter config : StateM World _) w =
        ((analyze config fs.readText SimLog.read).value, w') ∧ w'.Keeps fs own := by
  unfold analyzePolicies analyze
  cases config.validate with
  | error problem => exact ⟨w, rfl, h⟩
  | ok u =>
    obtain ⟨w₁, hruns, hw₁⟩ := collectRuns_keeps h filter config hlogs
    obtain ⟨w₂, hanalysis, hw₂⟩ := emitAll_keeps hw₁ filter
      (analyzeRuns config (config.policies.map (runOf SimLog.read fs.readText config.logPath)))
    refine ⟨w₂, ?_, hw₂⟩
    dsimp only
    rw [bind_apply, hruns, hanalysis, Logged.value_bind, value_collect]

end

end PolicyBench.Cli
