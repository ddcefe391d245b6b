/-
  PolicyBench — what becomes of the table of a run.

  The table goes to a file, which takes all of it, or only a first part, or cannot be
  opened.  The trace has no part in it as long as it goes elsewhere.

  * `Args.settings?`: the settings in effect, by the files;
  * `Args.TraceAt`: where the trace is asked for, `Args.TraceApart`: that this is
    no file that is read or stored; `Args.PlainOutput`: the table goes to a file;
  * `Args.ChangesOnly`: no other place changes than these two;
  * `exportTable_stored`: a table that can be stored is read from its file (`Args.Stored`);
  * `exportTable_refused`: else there is a first part of it in the file (`Args.CutShort`),
    or nothing has changed.
-/
import PolicyBench.Proofs.Cli.Trace
import PolicyBench.Proofs.Csv.Export

namespace PolicyBench.Cli

open FileSystem (ChangedOnly)

/-! ## What the arguments ask for -/

namespace Args

/-- The settings in effect, if the file of the arguments gives any. -/
def settings? (args : Args) (fs : FileSystem) : Option Config :=
  (loadConfig? fs (args.configFile.map Path.mk)).map args.override

/-- The place where the trace is asked for. -/
def TraceAt (args : Args) (fs : FileSystem) (at_ : Location) : Prop :=
  ∃ file, args.logFile = some file ∧ fs.locateNew ⟨file⟩ = .ok at_

/-- The trace is none of the files that are read, and not where the table goes. -/
structure TraceApart (args : Args) (fs : FileSystem) : Prop where
  config : ∀ file, args.configFile = some file →
    ∀ at_, fs.locate ⟨file⟩ = .ok at_ → ¬ args.TraceAt fs at_
  logs : ∀ config, args.settings? fs = some config → ∀ policy ∈ config.policies,
    ∀ at_, fs.locate (config.logPath policy) = .ok at_ → ¬ args.TraceAt fs at_
  output : ∀ config, args.settings? fs = some config →
    ∀ at_, fs.locateNew (args.outputPath config) = .ok at_ → ¬ args.TraceAt fs at_

/-- Where the table goes there is a file, or nothing yet. -/
def PlainOutput (args : Args) (fs : FileSystem) : Prop :=
  ∀ config, args.settings? fs = some config →
    ∀ at_, fs.locateNew (args.outputPath config) = .ok at_ → fs.Fileable at_

end Args

/-! ## What is left behind -/

section
variable (args : Args) (fs : FileSystem) (config : Config)

/-- Only the trace has changed and, if a table is wanted, its file. -/
structure Args.ChangesOnly (files : FileSystem) : Prop where
  changed : ChangedOnly (fun at_ => args.TraceAt fs at_ ∨
    args.noExport = false ∧ fs.locateNew (args.outputPath config) = .ok at_) fs files
  file : args.noExport = false →
    ∀ at_, fs.locateNew (args.outputPath config) = .ok at_ → files.Fileable at_

/-- The table is read from its file, if it is wanted. -/
structure Args.Stored (table : Table) (files : FileSystem) : Prop
    extends Args.ChangesOnly args fs config files where
  read : args.noExport = false → Csv.read files (args.outputPath config) = .ok table

/-- The table is wanted, but its file took only a first part of it. -/
structure Args.CutShort (table : Table) (files : FileSystem) : Prop
    extends Args.ChangesOnly args fs config files where
  wanted : args.noExport = false
  held : ∃ at_ n, fs.locateNew (args.outputPath config) = .ok at_ ∧
    n < (Csv.encode table).length ∧
    (fs.write (args.outputPath config) (Csv.encode table)).1 = .error (.writing n .noSpace) ∧
    files.get? at_ = some (.file ((Csv.encode table).take n))

end

section
variable {args : Args} {fs files : FileSystem} {config : Config}
variable (h : args.ChangesOnly fs config files)
include h

theorem Args.ChangesOnly.get?_eq {at_ : Location} (hat : ¬ args.TraceAt fs at_) :
    files.get? at_ = fs.get? at_ ∨
      args.noExport = false ∧ fs.locateNew (args.outputPath config) = .ok at_ := by
  by_cases hout : args.noExport = false ∧ fs.locateNew (args.outputPath config) = .ok at_
  · exact .inr hout
  · exact .inl (h.changed.get?_eq (not_or.2 ⟨hat, hout⟩))

/-- What goes to a file does not appear on the standard output. -/
theorem Args.ChangesOnly.shown_eq
    (hplain : ∀ at_, fs.locateNew (args.outputPath config) = .ok at_ → fs.Fileable at_)
    (hat : ¬ args.TraceAt fs (FileSystem.streamLocation 1)) : files.shown = fs.shown := by
  rcases h.get?_eq hat with hsame | ⟨hwanted, hplace⟩
  · exact FileSystem.shown_congr hsame
  · rw [(hplain _ hplace).shown_eq, (h.file hwanted _ hplace).shown_eq]

end

/-! ## Storing the table -/

theorem writeFile_apply (path : Path) (content : Text.Bytes) (w : World) :
    (Host.writeFile path content : StateM World _) w =
      ((w.files.write path content).1, { w with files := (w.files.write path content).2 }) := rfl

section
variable {w : World} {fs : FileSystem} {args : Args} (h : w.Keeps fs (args.TraceAt fs))
variable (filter : Filter) {config : Config} (table : Table)

theorem exportTable_unwanted (hno : args.noExport = true) (w : World) :
    (exportTable filter args config table : StateM World _) w = (.ok (), w) := by
  unfold exportTable
  rw [if_pos hno]
  rfl

variable (hwanted : args.noExport = false)
variable (hapart : ∀ at_, fs.locateNew (args.outputPath config) = .ok at_ → ¬ args.TraceAt fs at_)
include h hwanted hapart

/-- What is written to the file of the table, by what could be written at first. -/
theorem exists_write_of_creates {at_ : Location}
    (hcreates : fs.Creates (args.outputPath config) at_) (content : Text.Bytes) :
    ∃ files, w.files.write (args.outputPath config) content =
        ((fs.write (args.outputPath config) content).1, files) ∧
      files.get? at_ = some (.file (content.take (fs.fitting at_ 0 content.length))) ∧
      ChangedOnly (· = at_) w.files files ∧
      ∀ files', ChangedOnly (args.TraceAt fs) files files' → args.ChangesOnly fs config files' := by
  obtain ⟨_, hwrite, -⟩ := FileSystem.write_of_creates hcreates content
  obtain ⟨files, hwrite', hentry, hchanged⟩ :=
    FileSystem.write_of_creates ((h.files.creates_iff hapart).2 hcreates) content
  rw [h.files.fitting_eq] at hwrite' hentry
  refine ⟨files, by rw [hwrite', hwrite], hentry, hchanged, fun files' hafter => ⟨?_, ?_⟩⟩
  · refine ((h.files.mono fun _ => .inl).trans (hchanged.mono ?_)).trans
      (hafter.mono fun _ => .inl)
    rintro other rfl
    exact .inr ⟨hwanted, hcreates.1⟩
  · intro _ other hother
    obtain rfl := Except.ok.inj (hcreates.1.symm.trans hother)
    exact .inr ⟨_, (hafter.get?_eq (hapart at_ hcreates.1)).trans hentry⟩

variable (hplain : ∀ at_, fs.locateNew (args.outputPath config) = .ok at_ → fs.Fileable at_)
include hplain

/-- A table that its file takes is stored there. -/
theorem exportTable_stored (hwrite : (Csv.write fs table (args.outputPath config)).1 = .ok ())
    (hfinite : table.AllFinite) :
    ∃ w', (exportTable filter args config table : StateM World _) w = (.ok (), w') ∧
      args.Stored fs config table w'.files := by
  rw [Csv.write_eq_ok_iff] at hwrite
  obtain ⟨at_, hcreates, hfits⟩ := (FileSystem.write_eq_ok_iff hplain _).1 hwrite
  obtain ⟨files, hresult, hentry, hchanged, hleft⟩ :=
    exists_write_of_creates h hwanted hapart hcreates (Csv.encode table)
  rw [hwrite] at hresult
  rw [hfits, List.take_length] at hentry
  -- the report that the table was stored does not touch it
  have hstored : World.Keeps ⟨files, w.traceFile⟩ files (args.TraceAt fs) := ⟨.refl _ _, h.place⟩
  have hafter := (emit_keeps hstored filter (.exported (args.outputPath config))).files
  generalize hw' : ((emit filter (.exported (args.outputPath config)) : StateM World Unit)
    ⟨files, w.traceFile⟩).2 = w' at hafter
  refine ⟨w', ?_, hleft _ hafter, fun _ => ?_⟩
  · rw [exportTable, if_neg (by rw [hwanted]; exact Bool.false_ne_true), bind_apply,
      writeFile_apply, hresult, ← hw']
    rfl
  · have hat := FileSystem.locate_of_locateNew hcreates.1
    rw [← h.files.locate_eq_ok_iff, ← hchanged.locate_eq_ok_iff, ← hafter.locate_eq_ok_iff] at hat
    have hentry' := (hafter.get?_eq (hapart at_ hcreates.1)).trans hentry
    rw [Csv.read, FileSystem.read_of_get? hat hentry']
    exact Csv.decode_encode_eq_ok_iff.2 ⟨hfinite, rfl⟩

/-- If its file does not take it, that holds a first part of it, or cannot be opened. -/
theorem exportTable_refused (hrefused : (Csv.write fs table (args.outputPath config)).1 ≠ .ok ()) :
    ∃ e w', (exportTable filter args config table : StateM World _) w = (.error e, w') ∧
      (w' = w ∨ args.CutShort fs config table w'.files) := by
  rw [Ne, Csv.write_eq_ok_iff] at hrefused
  rw [exportTable, if_neg (by rw [hwanted]; exact Bool.false_ne_true), bind_apply, writeFile_apply]
  by_cases hopens : ∃ at_, fs.Creates (args.outputPath config) at_
  · obtain ⟨at_, hcreates⟩ := hopens
    obtain ⟨files, hresult, hentry, -, hleft⟩ :=
      exists_write_of_creates h hwanted hapart hcreates (Csv.encode table)
    have hcut : fs.fitting at_ 0 (Csv.encode table).length ≠ (Csv.encode table).length :=
      fun hfits => hrefused ((FileSystem.write_eq_ok_iff hplain _).2 ⟨at_, hcreates, hfits⟩)
    obtain ⟨_, hwrite, -⟩ := FileSystem.write_of_creates hcreates (Csv.encode table)
    rw [if_neg hcut] at hwrite
    rw [hresult, hwrite]
    refine ⟨_, _, rfl, .inr ⟨hleft files (.refl _ _), hwanted, at_, _, hcreates.1, ?_, ?_, hentry⟩⟩
    · exact Nat.lt_of_le_of_ne (fs.fitting_le at_ 0 _) hcut
    · rw [hwrite]
  · have hopens' : ∀ at_, ¬ w.files.Creates (args.outputPath config) at_ :=
      fun at_ hcreates => hopens ⟨at_, (h.files.creates_iff hapart).1 hcreates⟩
    have hplain' : ∀ at_, w.files.locateNew (args.outputPath config) = .ok at_ →
        w.files.Fileable at_ := by
      intro at_ hat
      rw [h.files.locateNew_eq_ok_iff] at hat
      exact (h.files.fileable_iff (hapart at_ hat)).2 (hplain at_ hat)
    obtain ⟨problem, hresult⟩ := FileSystem.write_of_not_creates hplain' hopens' (Csv.encode table)
    rw [hresult]
    exact ⟨_, w, rfl, .inl rfl⟩

end

end PolicyBench.Cli
