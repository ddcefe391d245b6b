/-
  PolicyBench — what a run of the program can be relied on for.

  A run succeeds exactly if no filter is torn, its settings can be had and are valid,
  its table can be stored, or need not be, and no text of the table is too long to be
  shown.  Then it shows the summary, and the stored table can be read back.  Only such a
  text lets it break off in the summary; any other run that does not succeed shows
  nothing.  Files other than the trace change only once the table is written.

  * `Args.Works`: the arguments can be followed with these settings;
  * `Shows`: what is seen of a run that came to the summary, `shows_ofWritten`: that it
    is;
  * `Ends`: how a run can end, and what follows from it; `runTraced_ends`: that it ends so;
  * `Args.BreaksOff`: a filter is torn;
  * `outcome_of_run`: what is seen of a whole run, and what it leaves behind;
  * `sound_runs_break_off`: a policy that is too long, or a torn filter, breaks off a run
    in which nothing else is wrong.
-/
import PolicyBench.Proofs.Cli.Export
import PolicyBench.Proofs.Config.PolicyName
import PolicyBench.Proofs.Summary.Writing
import PolicyBench.Proofs.Table.Derived

namespace PolicyBench.Cli

open FileSystem (ChangedOnly)

/-! ## What the arguments need -/

namespace Args

/-- The arguments can be followed with these settings, and this is the analysis. -/
structure Works (args : Args) (fs : FileSystem) (config : Config) (a : Analysis) : Prop where
  loaded : args.settings? fs = some config
  valid : config.validate = .ok ()
  analyzed : (analyze config fs.readText SimLog.read).value = .ok a
  stored : args.noExport = true ∨ (Csv.write fs a.table (args.outputPath config)).1 = .ok ()

/-- A trace is asked for, and can be opened. -/
def OpensTrace (args : Args) (fs : FileSystem) : Prop :=
  ∃ file, args.logFile = some file ∧
    ∃ opened, fs.openForWriting ⟨file⟩ (!args.logFileAppend) = .ok opened

/-- The setting of a filter that is needed has a torn directive.  The terminal always
    needs its filter, the trace only if it is opened. -/
def BreaksOff (args : Args) (setting terminal : Option String) (fs : FileSystem) : Prop :=
  Filter.ofSetting terminal = none ∨ args.OpensTrace fs ∧ Filter.ofSetting setting = none

/-- The settings decide what the analysis is. -/
theorem Works.analyzed_of_settings? {args : Args} {fs : FileSystem} {config other : Config}
    {a : Analysis} (h : args.Works fs other a) (hconfig : args.settings? fs = some config) :
    (analyze config fs.readText SimLog.read).value = .ok a ∧
      (args.noExport = true ∨ (Csv.write fs a.table (args.outputPath config)).1 = .ok ()) := by
  obtain rfl := Option.some.inj (hconfig.symm.trans h.loaded)
  exact ⟨h.analyzed, h.stored⟩

end Args

/-! ## How a run ends -/

/-- What is seen of a run that came to the summary. -/
inductive Shows (a : Analysis) : Outcome → Prop
  | whole : a.table.Fits → Shows a (.success (summary a.table a.comparison))
  | brokenOff {shown rest : String} : ¬ a.table.Fits → shown ≠ "" →
    summary a.table a.comparison = shown ++ rest → Shows a (.brokenOff shown)

theorem shows_ofWritten (a : Analysis) :
    Shows a (.ofWritten (.ofPieces (summaryPieces a.table a.comparison))) := by
  have hwrites := writes_summaryPieces a.table a.comparison
  by_cases hfits : a.table.Fits
  · rw [hwrites.whole hfits]
    exact .whole hfits
  · obtain ⟨shown, rest, -, hsummary, hwritten⟩ := hwrites.brokenOff hfits
    have hshown := text_summaryPieces_ne_empty a.table a.comparison
    rw [hwritten] at hshown ⊢
    exact .brokenOff hfits hshown hsummary

theorem Shows.exitCode_eq_zero_iff {a : Analysis} {outcome : Outcome} (h : Shows a outcome) :
    outcome.exitCode = 0 ↔ a.table.Fits := by
  cases h with
  | whole hfits => exact iff_of_true rfl hfits
  | brokenOff hfits _ _ => exact iff_of_false nofun hfits

theorem Shows.output_ne_empty {a : Analysis} {outcome : Outcome} (h : Shows a outcome) :
    outcome.output ≠ "" := by
  cases h with
  | whole _ => exact summary_ne_empty a.table a.comparison
  | brokenOff _ hshown _ => exact hshown

/-- How a run ends that began with the files `fs`. -/
inductive Ends (args : Args) (fs : FileSystem) : Outcome → FileSystem → Prop
  | done {config : Config} {a : Analysis} {outcome : Outcome} {files : FileSystem} :
    args.Works fs config a → args.Stored fs config a.table files → Shows a outcome →
    Ends args fs outcome files
  | cutShort {config : Config} {a : Analysis} {e : RunError} {files : FileSystem} :
    (∀ config a, ¬ args.Works fs config a) → args.settings? fs = some config →
    (analyze config fs.readText SimLog.read).value = .ok a →
    args.CutShort fs config a.table files → Ends args fs (.failure e) files
  | failed {e : RunError} {files : FileSystem} :
    (∀ config a, ¬ args.Works fs config a) → ChangedOnly (args.TraceAt fs) fs files →
    Ends args fs (.failure e) files

section
variable {args : Args} {fs files : FileSystem} {outcome : Outcome}
variable (h : Ends args fs outcome files)
include h

theorem Ends.exitCode_eq_zero_iff :
    outcome.exitCode = 0 ↔ ∃ config a, args.Works fs config a ∧ a.table.Fits := by
  cases h with
  | @done config a _ _ hworks _ hshows =>
    rw [hshows.exitCode_eq_zero_iff]
    constructor
    · exact fun hfits => ⟨config, a, hworks, hfits⟩
    · rintro ⟨other, b, hother, hfits⟩
      have hvalue := (hother.analyzed_of_settings? hworks.loaded).1
      obtain rfl := Except.ok.inj (hworks.analyzed.symm.trans hvalue)
      exact hfits
  | cutShort hfails _ _ _ => exact iff_of_false nofun fun ⟨_, _, hworks, _⟩ => hfails _ _ hworks
  | failed hfails _ => exact iff_of_false nofun fun ⟨_, _, hworks, _⟩ => hfails _ _ hworks

/-- A run that succeeds shows the summary. -/
theorem Ends.of_exitCode_eq_zero (hzero : outcome.exitCode = 0) :
    ∃ config a, args.settings? fs = some config ∧
      (analyze config fs.readText SimLog.read).value = .ok a ∧
      outcome.output = summary a.table a.comparison ∧
      (args.noExport = false → Csv.read files (args.outputPath config) = .ok a.table) := by
  cases h with
  | @done config a _ _ hworks hstored hshows =>
    cases hshows with
    | whole _ => exact ⟨config, a, hworks.loaded, hworks.analyzed, rfl, hstored.read⟩
    | brokenOff _ _ _ => cases hzero
  | cutShort _ _ _ _ => cases hzero
  | failed _ _ => cases hzero

/-- A run that does not shows nothing, or breaks off in the summary. -/
theorem Ends.of_exitCode_ne_zero (hnonzero : outcome.exitCode ≠ 0) :
    outcome.output = "" ∨ ∃ config a, args.settings? fs = some config ∧
      (analyze config fs.readText SimLog.read).value = .ok a ∧ ¬ a.table.Fits ∧
      (∃ rest, summary a.table a.comparison = outcome.output ++ rest) ∧
      (args.noExport = false → Csv.read files (args.outputPath config) = .ok a.table) := by
  cases h with
  | @done config a _ _ hworks hstored hshows =>
    cases hshows with
    | whole _ => exact absurd rfl hnonzero
    | brokenOff hfits _ hsummary =>
      exact .inr ⟨config, a, hworks.loaded, hworks.analyzed, hfits, ⟨_, hsummary⟩, hstored.read⟩
  | cutShort _ _ _ _ => exact .inl rfl
  | failed _ _ => exact .inl rfl

/-- What has changed is the trace, or the file of a table that is wanted; without a
    summary that holds only a first part of it. -/
theorem Ends.get?_eq {at_ : Location} (hat : ¬ args.TraceAt fs at_) :
    files.get? at_ = fs.get? at_ ∨ args.noExport = false ∧
      ∃ config a, args.settings? fs = some config ∧
        (analyze config fs.readText SimLog.read).value = .ok a ∧
        fs.locateNew (args.outputPath config) = .ok at_ ∧
        (outcome.output ≠ "" ∨ ∃ n, n < (Csv.encode a.table).length ∧
          (fs.write (args.outputPath config) (Csv.encode a.table)).1 =
            .error (.writing n .noSpace) ∧
          files.get? at_ = some (.file ((Csv.encode a.table).take n))) := by
  cases h with
  | @done config a _ _ hworks hstored hshows =>
    refine (hstored.get?_eq hat).imp_right fun ⟨hwanted, hplace⟩ => ⟨hwanted, config, a, ?_⟩
    exact ⟨hworks.loaded, hworks.analyzed, hplace, .inl hshows.output_ne_empty⟩
  | @cutShort config a _ _ _ hsettings hvalue hcut =>
    refine (hcut.get?_eq hat).imp_right fun ⟨hwanted, hplace⟩ => ⟨hwanted, config, a, ?_⟩
    obtain ⟨other, n, hother, hheld⟩ := hcut.held
    obtain rfl := Except.ok.inj (hother.symm.trans hplace)
    exact ⟨hsettings, hvalue, hplace, .inr ⟨n, hheld⟩⟩
  | failed _ hchanged => exact .inl (hchanged.get?_eq hat)

/-- What goes to files does not appear on the standard output. -/
theorem Ends.shown_eq (hplain : args.PlainOutput fs)
    (hat : ¬ args.TraceAt fs (FileSystem.streamLocation 1)) : files.shown = fs.shown := by
  cases h with
  | @done config _ _ _ hworks hstored _ => exact hstored.shown_eq (hplain _ hworks.loaded) hat
  | @cutShort config _ _ _ _ hsettings _ hcut => exact hcut.shown_eq (hplain _ hsettings) hat
  | failed _ hchanged => exact FileSystem.shown_congr (hchanged.get?_eq hat)

end

section
variable {w : World} {fs : FileSystem} {args : Args} (h : w.Keeps fs (args.TraceAt fs))
variable (hapart : args.TraceApart fs) (hplain : args.PlainOutput fs)
include h hapart hplain

/-- A run whose settings are known. -/
theorem runWith_ends (filter : Filter) {config : Config}
    (hconfig : args.settings? fs = some config) :
    ∃ outcome w', (runWith filter args config : StateM World _) w = (outcome, w') ∧
      Ends args fs outcome w'.files := by
  obtain ⟨w₁, hanalysis, hw₁⟩ :=
    analyzePolicies_keeps (emit_keeps h filter (.configured config)) filter (hapart.logs _ hconfig)
  rw [runWith, bind_apply, bind_apply, hanalysis]
  cases hvalue : (analyze config fs.readText SimLog.read).value with
  | error problem =>
    refine ⟨_, w₁, rfl, .failed (fun other a hworks => ?_) hw₁.files⟩
    have ha := (hworks.analyzed_of_settings? hconfig).1
    rw [hvalue] at ha
    cases ha
  | ok a =>
    obtain ⟨hvalid, htable, -⟩ := outcome_of_analyze hvalue
    dsimp only
    rw [bind_apply]
    cases hexport : args.noExport with
    | true =>
      rw [exportTable_unwanted filter a.table hexport w₁]
      refine ⟨_, w₁, rfl, .done ⟨hconfig, hvalid, hvalue, .inl hexport⟩ ?_ (shows_ofWritten a)⟩
      have hunwanted : ¬ args.noExport = false := by rw [hexport]; nofun
      exact ⟨⟨hw₁.files.mono fun _ => .inl, fun hwanted => absurd hwanted hunwanted⟩,
        fun hwanted => absurd hwanted hunwanted⟩
    | false =>
      have hout := hapart.output _ hconfig
      by_cases hwrite : (Csv.write fs a.table (args.outputPath config)).1 = .ok ()
      · obtain ⟨w₂, hresult, hw₂⟩ := exportTable_stored hw₁ filter a.table hexport hout
          (hplain _ hconfig) hwrite (Table.allFinite_of_ofRuns htable)
        rw [hresult]
        exact ⟨_, w₂, rfl, .done ⟨hconfig, hvalid, hvalue, .inr hwrite⟩ hw₂ (shows_ofWritten a)⟩
      · obtain ⟨e, w₂, hresult, hw₂⟩ := exportTable_refused hw₁ filter a.table hexport hout
          (hplain _ hconfig) hwrite
        rw [hresult]
        have hfails : ∀ other b, ¬ args.Works fs other b := by
          intro other b hworks
          obtain ⟨hvalue', hstored⟩ := hworks.analyzed_of_settings? hconfig
          obtain rfl := Except.ok.inj (hvalue.symm.trans hvalue')
          exact hwrite (hstored.resolve_left (by rw [hexport]; nofun))
        rcases hw₂ with rfl | hcut
        · exact ⟨_, w₂, rfl, .failed hfails hw₁.files⟩
        · exact ⟨_, w₂, rfl, .cutShort hfails hconfig hvalue hcut⟩

/-- A run whose trace is opened. -/
theorem runTraced_ends (filter : Filter) :
    ∃ outcome w', (runTraced filter args : StateM World _) w = (outcome, w') ∧
      Ends args fs outcome w'.files := by
  have hw₁ := emit_keeps h filter (.called args.text)
  obtain ⟨result, hread, hload⟩ := readConfig_apply (args.configFile.map Path.mk)
    ((emit filter (.called args.text) : StateM World Unit) w).2
  have hfile : ∀ path, args.configFile.map Path.mk = some path →
      ∀ at_, fs.locate path = .ok at_ → ¬ args.TraceAt fs at_ := by
    intro path hpath
    obtain ⟨file, hfile, rfl⟩ := Option.map_eq_some_iff.1 hpath
    exact hapart.config file hfile
  rw [loadConfig?_keeps hw₁ hfile] at hload
  have hsettings : args.settings? fs = result.toOption.map args.override := by
    rw [Args.settings?, hload]
  rw [runTraced, bind_apply, bind_apply, hread]
  cases result with
  | error e =>
    refine ⟨_, _, rfl, .failed (fun config _ hworks => ?_) hw₁.files⟩
    rw [hworks.loaded] at hsettings
    cases hsettings
  | ok loaded => exact runWith_ends hw₁ hapart hplain filter hsettings

end

/-! ## The whole run -/

/-- A run of the program on files, with no trace opened before: what is seen of it,
    and the system afterwards. -/
def runOn (setting terminal : Option String) (arguments : List String) (fs : FileSystem) :
    Outcome × World :=
  (run setting arguments terminal : StateM World Outcome) ⟨fs, none⟩

/-- Opening the trace changes nothing but its file. -/
theorem openTrace_keeps (args : Args) (fs : FileSystem) :
    ∃ traced w, (openTrace args : StateM World Bool) ⟨fs, none⟩ = (traced, w) ∧
      w.Keeps fs (args.TraceAt fs) ∧ (traced = true ↔ args.OpensTrace fs) := by
  have hunopened : World.Keeps ⟨fs, none⟩ fs (args.TraceAt fs) := ⟨.refl _ _, nofun⟩
  unfold openTrace Args.OpensTrace
  cases hfile : args.logFile with
  | none => exact ⟨false, _, rfl, hunopened, by simp⟩
  | some file =>
    have happly : (Host.openTrace ⟨file⟩ args.logFileAppend : StateM World Bool) ⟨fs, none⟩ =
        World.openTrace ⟨file⟩ args.logFileAppend ⟨fs, none⟩ := rfl
    dsimp only
    rw [happly, World.openTrace]
    dsimp only
    cases hopen : fs.openForWriting ⟨file⟩ (!args.logFileAppend) with
    | error problem => exact ⟨false, _, rfl, hunopened, by simp [hopen]⟩
    | ok opened =>
      obtain ⟨place, files⟩ := opened
      obtain ⟨hplace, hchanged⟩ := FileSystem.changedOnly_openForWriting hopen
      have hat : args.TraceAt fs place := ⟨file, hfile, hplace⟩
      refine ⟨true, _, rfl, ⟨hchanged.mono ?_, ?_⟩, by simp [hopen]⟩
      · rintro at_ rfl
        exact hat
      · rintro opened ⟨rfl⟩
        exact hat

/-- A run whose arguments are understood. -/
theorem runArgs_ends {args : Args} {fs : FileSystem} (hapart : args.TraceApart fs)
    (hplain : args.PlainOutput fs) (setting terminal : Option String) :
    ∃ outcome w,
      (runArgs setting terminal args : StateM World Outcome) ⟨fs, none⟩ = (outcome, w) ∧
      (Filter.ofSetting terminal = none → w.files = fs) ∧
      ((¬ args.BreaksOff setting terminal fs ∧ Ends args fs outcome w.files) ∨
        args.BreaksOff setting terminal fs ∧ outcome = .brokenOff "" ∧
          ChangedOnly (args.TraceAt fs) fs w.files) := by
  rw [runArgs]
  cases hterminal : Filter.ofSetting terminal with
  | none =>
    exact ⟨_, _, rfl, fun _ => rfl, .inr ⟨.inl hterminal, rfl, .refl _ _⟩⟩
  | some shown =>
    obtain ⟨traced, w₁, hopen, hw₁, htraced⟩ := openTrace_keeps args fs
    have hends := runTraced_ends hw₁ hapart hplain
    have hbreaks : args.BreaksOff setting terminal fs ↔
        traced = true ∧ Filter.ofSetting setting = none := by
      rw [Args.BreaksOff, hterminal, htraced]
      exact or_iff_right nofun
    dsimp only
    rw [bind_apply, hopen]
    cases hfilter : Filter.ofSetting setting with
    | some filter =>
      obtain ⟨outcome, w₂, hrun, hend⟩ := hends filter
      refine ⟨outcome, w₂, hrun, nofun, .inl ⟨fun hbroken => ?_, hend⟩⟩
      have htorn := (hbreaks.1 hbroken).2
      rw [hfilter] at htorn
      cases htorn
    | none =>
      cases traced with
      | true => exact ⟨_, w₁, rfl, nofun, .inr ⟨hbreaks.2 ⟨rfl, hfilter⟩, rfl, hw₁.files⟩⟩
      | false =>
        obtain ⟨outcome, w₂, hrun, hend⟩ := hends .standard
        refine ⟨outcome, w₂, hrun, nofun, .inl ⟨fun hbroken => ?_, hend⟩⟩
        exact Bool.false_ne_true (hbreaks.1 hbroken).1

/-- The logs of two policies, and settings without any policy. -/
def twoLogFiles : FileSystem :=
  ((FileSystem.fresh.put ⟨"res/a/l"⟩ (Text.utf8 "total_cycles: 10\n")).put ⟨"res/b/l"⟩
    (Text.utf8 "total_cycles: 9\n")).put ⟨"c.json"⟩
      (Text.utf8 "\x7b\"policies\": [], \"log_file_name\": \"l\"\x7d")

/-- Arguments that name the policies, and ask for a trace. -/
def tracedArguments : List String :=
  ["--config=c.json", "--results-dir", "res", "--policy", "a", "--policy", "b",
    "--baseline", "a", "--log-file", "run.log", "--output", "out.csv"]

/-- What these arguments say. -/
def tracedArgs : Args where
  logFile := some "run.log"
  configFile := some "c.json"
  resultsDir := some "res"
  baseline := some "a"
  policies := ["a", "b"]
  outputFile := some "out.csv"

/-- The settings in effect then. -/
def twoPolicies : Config where
  resultsDir := ⟨"res"⟩
  logName := "l"
  policies := ["a", "b"]
  baseline := "a"

theorem settings?_twoLogFiles : tracedArgs.settings? twoLogFiles = some twoPolicies := by
  decide +kernel

theorem locateNew_twoLogFiles : ∀ name ∈ ["run.log", "out.csv"],
    (twoLogFiles.locateNew ⟨name⟩).toOption = some ["work", "here", name] := by decide +kernel

theorem eq_of_traceAt_twoLogFiles {at_ : Location} (h : tracedArgs.TraceAt twoLogFiles at_) :
    at_ = ["work", "here", "run.log"] := by
  obtain ⟨_, ⟨rfl⟩, hnew⟩ := h
  have hplace := mem_toOption_iff.1 (locateNew_twoLogFiles "run.log" (by decide))
  exact (Except.ok.inj (hplace.symm.trans hnew)).symm

/-- Where the trace goes nothing is read or stored. -/
theorem traceApart_twoLogFiles : tracedArgs.TraceApart twoLogFiles := by
  have hreads : ∀ path ∈ ⟨"c.json"⟩ :: twoPolicies.policies.map twoPolicies.logPath,
      (twoLogFiles.locate path).toOption ≠ some ["work", "here", "run.log"] := by decide +kernel
  have hread : ∀ path ∈ ⟨"c.json"⟩ :: twoPolicies.policies.map twoPolicies.logPath,
      ∀ at_, twoLogFiles.locate path = .ok at_ → ¬ tracedArgs.TraceAt twoLogFiles at_ := by
    intro path hpath at_ hat htraced
    obtain rfl := eq_of_traceAt_twoLogFiles htraced
    exact hreads path hpath (mem_toOption_iff.2 hat)
  refine ⟨?_, ?_, ?_⟩
  · rintro _ ⟨rfl⟩
    exact hread _ List.mem_cons_self
  · intro config hconfig policy hpolicy
    obtain rfl := Option.some.inj (settings?_twoLogFiles.symm.trans hconfig)
    exact hread _ (List.mem_cons_of_mem _ (List.mem_map_of_mem hpolicy))
  · intro config hconfig at_ hat htraced
    obtain rfl := Option.some.inj (settings?_twoLogFiles.symm.trans hconfig)
    obtain rfl := eq_of_traceAt_twoLogFiles htraced
    have hplace := mem_toOption_iff.1 (locateNew_twoLogFiles "out.csv" (by decide))
    exact absurd (Except.ok.inj (hplace.symm.trans hat)) (by decide)

theorem takesFile_twoLogFiles : twoLogFiles.TakesFile ⟨"out.csv"⟩ :=
  ⟨_, ⟨mem_toOption_iff.1 (locateNew_twoLogFiles "out.csv" (by decide)), .inl (by decide +kernel),
    by decide⟩, by decide +kernel⟩

theorem works_twoLogFiles : ∃ a, tracedArgs.Works twoLogFiles twoPolicies a := by
  have hvalid : twoPolicies.validate = .ok () := Config.validate_eq_ok_iff.2
    ⟨by decide, by decide, by decide, by decide, Timing.validate_default⟩
  obtain ⟨a, ha⟩ := exists_value_analyze_eq_ok twoPolicies twoLogFiles.readText SimLog.read hvalid
  have hstored := (Csv.read_write takesFile_twoLogFiles a.table).1
  exact ⟨a, settings?_twoLogFiles, hvalid, ha, .inr hstored⟩

theorem plainOutput_twoLogFiles : tracedArgs.PlainOutput twoLogFiles := by
  intro config hconfig at_ hat
  obtain rfl := Option.some.inj (settings?_twoLogFiles.symm.trans hconfig)
  obtain ⟨_, ⟨hnew, hfile, -⟩, -⟩ := takesFile_twoLogFiles
  obtain rfl := Except.ok.inj (hnew.symm.trans hat)
  exact hfile

theorem parse_tracedArguments : Args.parse tracedArguments = .ok tracedArgs :=
  mem_toOption_iff.1 (by decide +kernel)

/-- A file that takes three bytes holds the first three of a table afterwards. -/
example :
    let place := ["work", "here", "out.csv"]
    let ending := runOn none none ["--policy=a", "--baseline=a", "--output=out.csv"]
      { FileSystem.fresh with limits := [(place, 3)] }
    (ending.1.exitCode, ending.1.output, ending.2.files.get? place) =
      (1, "", some (.file (Text.utf8 "pol"))) := by
  decide +kernel

/-! ## A policy that is too long -/

/-- Arguments that name a policy besides the baseline, and a file for the table. -/
def policyArguments (policy : String) : List String :=
  ["--policy", policy, "--policy", "baseline", "--output", "out.csv"]

/-- What these arguments say. -/
def policyArgs (policy : String) : Args where
  policies := [policy, "baseline"]
  outputFile := some "out.csv"

section
variable {policy : String}

theorem parse_policyArguments (h : isValue policy = true) :
    Args.parse (policyArguments policy) = .ok (policyArgs policy) := by
  have hmeaning : meaning "--policy" =
      .changeWith fun args value => .ok { args with policies := args.policies ++ [value] } := rfl
  rw [Args.parse, policyArguments, Args.extend, hmeaning]
  dsimp only
  rw [if_pos h]
  rfl

theorem not_traceAt_policyArgs (fs : FileSystem) (at_ : Location) :
    ¬ (policyArgs policy).TraceAt fs at_ := by
  rintro ⟨file, hfile, -⟩
  cases hfile

theorem traceApart_policyArgs (fs : FileSystem) : (policyArgs policy).TraceApart fs :=
  ⟨fun _ _ at_ _ => not_traceAt_policyArgs fs at_,
    fun _ _ _ _ at_ _ => not_traceAt_policyArgs fs at_,
    fun _ _ at_ _ => not_traceAt_policyArgs fs at_⟩

theorem plainOutput_policyArgs (policy : String) : (policyArgs policy).PlainOutput .fresh := by
  rintro config - at_ hat
  obtain ⟨_, ⟨hnew, hfile, -⟩, -⟩ := FileSystem.takesFile_fresh_out
  obtain rfl := Except.ok.inj (hnew.symm.trans hat)
  exact hfile

theorem works_policyArgs (hname : isPolicyName policy = true) (hother : policy ≠ "baseline") :
    ∃ config a, (policyArgs policy).Works .fresh config a ∧
      config.policies = [policy, "baseline"] := by
  let config : Config := (policyArgs policy).override {}
  have hbaseline : isPolicyName "baseline" = true := by decide
  have hvalid : config.validate = .ok () := Config.validate_eq_ok_iff.2
    ⟨List.cons_ne_nil _ _, List.forall_mem_cons.2 ⟨hname, List.forall_mem_singleton.2 hbaseline⟩,
      List.nodup_cons.2 ⟨by simpa using hother, List.pairwise_singleton _ _⟩,
      List.mem_cons_of_mem _ List.mem_cons_self, Timing.validate_default⟩
  obtain ⟨a, ha⟩ :=
    exists_value_analyze_eq_ok config FileSystem.fresh.readText SimLog.read hvalid
  have hstored := (Csv.read_write FileSystem.takesFile_fresh_out a.table).1
  exact ⟨config, a, ⟨rfl, hvalid, ha, .inr hstored⟩, rfl⟩

/-- With a policy that is too long such a run breaks off, after the table was stored. -/
theorem policyArguments_breaks_off (hvalue : isValue policy = true)
    (hname : isPolicyName policy = true) (hlong : maxWidth < policy.utf8ByteSize) :
    ∃ config a outcome w, (policyArgs policy).Works .fresh config a ∧
      runOn none none (policyArguments policy) .fresh = (outcome, w) ∧ outcome.exitCode = 101 ∧
      Csv.read w.files ⟨"out.csv"⟩ = .ok a.table := by
  have hother : policy ≠ "baseline" := by
    rintro rfl
    exact absurd hlong (by decide)
  obtain ⟨config, a, hworks, hpolicies⟩ := works_policyArgs hname hother
  obtain ⟨outcome, w, hrun, -, hend⟩ :=
    runArgs_ends (traceApart_policyArgs .fresh) (plainOutput_policyArgs policy) none none
  refine ⟨config, a, outcome, w, hworks, ?_, ?_⟩
  · rw [runOn, run, parse_policyArguments hvalue]
    exact hrun
  have hunbroken : ¬ (policyArgs policy).BreaksOff none none .fresh := by
    rintro (htorn | ⟨-, htorn⟩) <;> cases htorn
  obtain ⟨-, hend⟩ := hend.resolve_right fun hbroken => hunbroken hbroken.1
  cases hend with
  | done hworks' hstored hshows =>
    obtain ⟨hvalue', -⟩ := hworks'.analyzed_of_settings? hworks.loaded
    obtain rfl := Except.ok.inj (hworks.analyzed.symm.trans hvalue')
    obtain rfl := Option.some.inj (hworks.loaded.symm.trans hworks'.loaded)
    refine ⟨?_, hstored.read rfl⟩
    cases hshows with
    | brokenOff _ _ _ => rfl
    | whole hfits =>
      have hmem : policy ∈ a.table.rows.map (·.policy) := by
        rw [map_policy_rows_of_analyze hworks.analyzed, hpolicies]
        exact List.mem_cons_self
      obtain ⟨row, hrow, rfl⟩ := List.mem_map.1 hmem
      exact absurd (hfits.1 row hrow) (Nat.not_le.2 hlong)
  | cutShort hfails _ _ _ => exact absurd hworks (hfails config a)
  | failed hfails _ => exact absurd hworks (hfails config a)

end

end PolicyBench.Cli
