/-
  PolicyBench — configuration files that leave settings out.

  A configuration file gives some of the settings, in any order, with any blanks, and
  among members of other names whose values are any JSON.  Reading it gives the
  configuration in which those settings have their values and all others their defaults.

  * `Config.Partial`, `Timing.Partial`: the settings that a file gives, and `complete`:
    the configuration that they stand for;
  * `Config.Partial.Written`: the texts of such a file;
  * `partial_config_loads`: each of them is read as that configuration.
-/
import PolicyBench.Config.Json
import PolicyBench.Proofs.Json.Shape

namespace PolicyBench

-- What holds of all elements of a list is decided on the list, also where its type is finite.
attribute [local instance (high)] List.decidableBAll

open Json (Document IsStructure IsText IsTexts IsFloat IsNatural IsBool)

/-! ## Settings that are given -/

/-- Some of the timing constants. -/
structure Timing.Partial where
  cyclePeriod : Option Binary64 := none
  tokens : Option UInt64 := none

/-- Some of the settings. -/
structure Config.Partial where
  resultsDir : Option String := none
  logName : Option String := none
  outputName : Option String := none
  policies : Option (List String) := none
  baseline : Option String := none
  /-- some of its constants, if it is there -/
  timing : Option Timing.Partial := none
  parallel : Option Bool := none

/-- What is missing has its default. -/
def Timing.Partial.complete (p : Timing.Partial) : Timing where
  cyclePeriod := p.cyclePeriod.getD ({} : Timing).cyclePeriod
  tokens := p.tokens.getD ({} : Timing).tokens

/-- What is missing has its default, also in the timing constants. -/
def Config.Partial.complete (p : Config.Partial) : Config where
  resultsDir := (p.resultsDir.map Path.mk).getD ({} : Config).resultsDir
  logName := p.logName.getD ({} : Config).logName
  outputName := p.outputName.getD ({} : Config).outputName
  policies := p.policies.getD ({} : Config).policies
  baseline := p.baseline.getD ({} : Config).baseline
  timing := (p.timing.map Timing.Partial.complete).getD ({} : Config).timing
  parallel := p.parallel.getD ({} : Config).parallel

/-! ## Their texts -/

/-- The names of the fields that are there. -/
def present (fields : List (String × Bool)) : List String := (fields.filter (·.2)).map (·.1)

/-- The constants that are given, by their names. -/
def Timing.Partial.given (p : Timing.Partial) : List String :=
  present [("cycle_period_ns", p.cyclePeriod.isSome), ("workload_token_count", p.tokens.isSome)]

/-- The settings that are given, by their names. -/
def Config.Partial.given (p : Config.Partial) : List String :=
  present [("results_dir", p.resultsDir.isSome), ("log_file_name", p.logName.isSome),
    ("output_file_name", p.outputName.isSome), ("policies", p.policies.isSome),
    ("baseline", p.baseline.isSome), ("timing", p.timing.isSome),
    ("parallel", p.parallel.isSome)]

/-- The text of a constant. -/
inductive Timing.Partial.Gives (p : Timing.Partial) : String → List Char → Prop where
  | cyclePeriod {x cs} : p.cyclePeriod = some x → IsFloat x cs → p.Gives "cycle_period_ns" cs
  | tokens {k cs} : p.tokens = some k → IsNatural k cs → p.Gives "workload_token_count" cs

/-- An object of these constants. -/
def Timing.Partial.IsObject (p : Timing.Partial) : List Char → Prop :=
  IsStructure ["cycle_period_ns", "workload_token_count"] p.Gives p.given

/-- The text of a setting. -/
inductive Config.Partial.Gives (p : Config.Partial) : String → List Char → Prop where
  | resultsDir {s cs} : p.resultsDir = some s → IsText s cs → p.Gives "results_dir" cs
  | logName {s cs} : p.logName = some s → IsText s cs → p.Gives "log_file_name" cs
  | outputName {s cs} : p.outputName = some s → IsText s cs → p.Gives "output_file_name" cs
  | policies {ss cs} : p.policies = some ss → IsTexts ss cs → p.Gives "policies" cs
  | baseline {s cs} : p.baseline = some s → IsText s cs → p.Gives "baseline" cs
  | timing {t cs} : p.timing = some t → t.IsObject cs → p.Gives "timing" cs
  | parallel {b cs} : p.parallel = some b → IsBool b cs → p.Gives "parallel" cs

/-- An object of these settings. -/
def Config.Partial.IsObject (p : Config.Partial) : List Char → Prop :=
  IsStructure ["results_dir", "log_file_name", "output_file_name", "policies", "baseline",
    "timing", "parallel"] p.Gives p.given

/-- The text of a file that gives these settings. -/
def Config.Partial.Written (p : Config.Partial) (text : String) : Prop :=
  Json.Alone p.IsObject text.toList

/-! ## Reading them -/

theorem nodup_present {fields : List (String × Bool)} (h : (fields.map (·.1)).Nodup) :
    (present fields).Nodup :=
  h.sublist (List.filter_sublist.map _)

theorem mem_present {fields : List (String × Bool)} {name : String} :
    name ∈ present fields ↔ (name, true) ∈ fields := by
  simp [present]

theorem ite_getD {α : Type} {given : List String} {name : String} {o : Option α}
    (h : name ∈ given ↔ o.isSome = true) (a : α) :
    (if name ∈ given then o.getD a else a) = o.getD a := by
  cases o <;> simp [h]

/-! ### The constants -/

/-- The constants `seen` are set. -/
def Timing.Partial.upTo (p : Timing.Partial) (seen : List String) : Timing where
  cyclePeriod :=
    if "cycle_period_ns" ∈ seen then p.complete.cyclePeriod else ({} : Timing).cyclePeriod
  tokens := if "workload_token_count" ∈ seen then p.complete.tokens else ({} : Timing).tokens

theorem Timing.Partial.filling (p : Timing.Partial) :
    Json.Filling timingFields p.Gives p.upTo where
  sets := by
    intro name cs h
    cases h with
    | cyclePeriod hx hcs =>
      exact ⟨_, rfl, Json.exists_sets hcs.exists_readFloat fun seen => by
        simp [upTo, complete, hx]⟩
    | tokens hk hcs =>
      exact ⟨_, rfl, Json.exists_sets hcs.exists_readNatural fun seen => by
        simp [upTo, complete, hk]⟩
  congr := by
    intro seen seen' h
    simp only [upTo, h]

theorem Timing.Partial.nodup_given (p : Timing.Partial) : p.given.Nodup :=
  nodup_present (by simp)

theorem Timing.Partial.upTo_nil (p : Timing.Partial) : p.upTo [] = {} := by
  simp only [upTo, List.not_mem_nil, if_false]

theorem Timing.Partial.upTo_given (p : Timing.Partial) : p.upTo p.given = p.complete := by
  rw [upTo, Timing.mk.injEq]
  exact ⟨ite_getD (by simp [given, mem_present]) _, ite_getD (by simp [given, mem_present]) _⟩

theorem Timing.Partial.IsObject.exists_readStructure {p : Timing.Partial} {cs : List Char}
    (h : p.IsObject cs) :
    ∃ d : Document, d.ReadFrom cs ∧ Json.readStructure timingFields {} d = .ok p.complete := by
  have hread := IsStructure.exists_readStructure p.filling p.nodup_given h
  rwa [p.upTo_nil, p.upTo_given] at hread

/-! ### The settings -/

/-- The settings `seen` are set. -/
def Config.Partial.upTo (p : Config.Partial) (seen : List String) : Config where
  resultsDir := if "results_dir" ∈ seen then p.complete.resultsDir else ({} : Config).resultsDir
  logName := if "log_file_name" ∈ seen then p.complete.logName else ({} : Config).logName
  outputName :=
    if "output_file_name" ∈ seen then p.complete.outputName else ({} : Config).outputName
  policies := if "policies" ∈ seen then p.complete.policies else ({} : Config).policies
  baseline := if "baseline" ∈ seen then p.complete.baseline else ({} : Config).baseline
  timing := if "timing" ∈ seen then p.complete.timing else ({} : Config).timing
  parallel := if "parallel" ∈ seen then p.complete.parallel else ({} : Config).parallel

theorem Config.Partial.filling (p : Config.Partial) :
    Json.Filling configFields p.Gives p.upTo where
  sets := by
    intro name cs h
    cases h with
    | resultsDir hs hcs =>
      exact ⟨_, rfl, Json.exists_sets hcs.exists_readText fun seen => by
        simp [upTo, complete, hs]⟩
    | logName hs hcs =>
      exact ⟨_, rfl, Json.exists_sets hcs.exists_readText fun seen => by
        simp [upTo, complete, hs]⟩
    | outputName hs hcs =>
      exact ⟨_, rfl, Json.exists_sets hcs.exists_readText fun seen => by
        simp [upTo, complete, hs]⟩
    | policies hs hcs =>
      exact ⟨_, rfl, Json.exists_sets hcs.exists_readTexts fun seen => by
        simp [upTo, complete, hs]⟩
    | baseline hs hcs =>
      exact ⟨_, rfl, Json.exists_sets hcs.exists_readText fun seen => by
        simp [upTo, complete, hs]⟩
    | timing ht hcs =>
      exact ⟨_, rfl, Json.exists_sets hcs.exists_readStructure fun seen => by
        simp [upTo, complete, ht]⟩
    | parallel hb hcs =>
      exact ⟨_, rfl, Json.exists_sets hcs.exists_readBool fun seen => by
        simp [upTo, complete, hb]⟩
  congr := by
    intro seen seen' h
    simp only [upTo, h]

theorem Config.Partial.nodup_given (p : Config.Partial) : p.given.Nodup :=
  nodup_present (by simp)

theorem Config.Partial.upTo_nil (p : Config.Partial) : p.upTo [] = {} := by
  simp only [upTo, List.not_mem_nil, if_false]

theorem Config.Partial.upTo_given (p : Config.Partial) : p.upTo p.given = p.complete := by
  rw [upTo, Config.mk.injEq]
  refine ⟨ite_getD ?_ _, ite_getD ?_ _, ite_getD ?_ _, ite_getD ?_ _, ite_getD ?_ _,
    ite_getD ?_ _, ite_getD ?_ _⟩
  all_goals simp [given, mem_present]

/-- A file is read as the configuration that its settings stand for. -/
theorem Config.Partial.Written.ofJson {p : Config.Partial} {text : String} (h : p.Written text) :
    Config.ofJson (Text.utf8 text) = .ok p.complete := by
  refine Json.readAll_of_alone (fun cs hcs => ?_) h
  have hread := IsStructure.exists_readStructure p.filling p.nodup_given hcs
  rwa [p.upTo_nil, p.upTo_given] at hread

/-- **What a file leaves out has its default, whatever the layout of the file**: it is read
    as the configuration that its settings stand for, and so is every other file that gives
    the same settings. -/
theorem partial_config_loads {p : Config.Partial} {text : String} (h : p.Written text) :
    Config.ofJson (Text.utf8 text) = .ok p.complete ∧
      ∀ text', p.Written text' →
        Config.ofJson (Text.utf8 text') = Config.ofJson (Text.utf8 text) :=
  ⟨h.ofJson, fun _ h' => h'.ofJson.trans h.ofJson.symm⟩

/-! ### A file with an unknown member and half of the constants -/

/-- The settings of the file. -/
def sparse : Config.Partial :=
  { timing := some { cyclePeriod := some (Decimal.round false ⟨25, -1⟩) }, parallel := some false }

/-- A number that is too large, and half of a surrogate pair. -/
def sparseItems : List Json.Item :=
  [⟨[], ['1', 'e', '9', '9', '9'], []⟩, ⟨[], Json.inQuotes ['\\', 'u', 'd', '8', '0', '0'], []⟩]

/-- The constants of the file. -/
def sparseTiming : List Json.Member :=
  [⟨[], "cycle_period_ns".toList, [], ⟨[' '], ['2', '5', 'e', '-', '1'], []⟩⟩]

/-- The members of the file. -/
def sparseMembers : List Json.Member :=
  [⟨[], "note".toList, [],
      ⟨[], '[' :: ([','].intercalate (sparseItems.map (·.text)) ++ [']']), []⟩⟩,
    ⟨['\n'], "timing".toList, [],
      ⟨[], '\x7b' :: ([','].intercalate (sparseTiming.map (·.text)) ++ ['\x7d']), []⟩⟩,
    ⟨[], "\\u0070arallel".toList, [' '], ⟨[], "false".toList, []⟩⟩]

theorem isValue_sparseItems :
    Json.IsValue ('[' :: ([','].intercalate (sparseItems.map (·.text)) ++ [']'])) := by
  have hexponent : Json.IsExponent (some (false, [9, 9, 9])) ['e', '9', '9', '9'] :=
    .plain (by decide) ⟨by decide, by decide⟩
  have hlarge : Json.SpelledNumber ⟨false, [1], [], false, some (false, [9, 9, 9]), none⟩
      ['1', 'e', '9', '9', '9'] :=
    .parts (.nonzero (by decide) ⟨by decide, by decide⟩) .absent hexponent
  have hcode : Json.HexCode ['d', '8', '0', '0'] 0xD800 :=
    @Json.HexCode.digits _ _ _ _ 13 8 0 0 (by decide) (by decide) (by decide) (by decide)
  refine @Json.IsValue.array sparseItems _ ⟨?_, .parts⟩ ?_
  · simp only [sparseItems, List.forall_mem_cons]
    exact ⟨⟨by decide, by decide⟩, ⟨by decide, by decide⟩, nofun⟩
  · simp only [sparseItems, List.forall_mem_cons]
    exact ⟨.number hlarge, .string (.code hcode .nil), nofun⟩

theorem isObject_sparseTiming :
    Timing.Partial.IsObject { cyclePeriod := some (Decimal.round false ⟨25, -1⟩) }
      ('\x7b' :: ([','].intercalate (sparseTiming.map (·.text)) ++ ['\x7d'])) := by
  have hexponent : Json.IsExponent (some (true, [1])) ['e', '-', '1'] :=
    .minus (by decide) ⟨by decide, by decide⟩
  have hspelled : Json.SpelledNumber ⟨false, [2, 5], [], false, some (true, [1]), none⟩
      ['2', '5', 'e', '-', '1'] :=
    .parts (.nonzero (by decide) ⟨by decide, by decide⟩) .absent hexponent
  have hperiod : Json.IsFloat (Decimal.round false ⟨25, -1⟩) ['2', '5', 'e', '-', '1'] :=
    @Json.IsFloat.number _ _ (.other _) _ hspelled (by decide +kernel) rfl
  have hpadded : ∀ m ∈ sparseTiming, m.Padded := by
    simp only [sparseTiming, List.forall_mem_cons]
    exact ⟨⟨by decide, by decide, by decide, by decide⟩, nofun⟩
  refine .members ["cycle_period_ns"] sparseTiming ⟨hpadded, .parts⟩ (.cons ?_ .nil) (by decide)
  exact ⟨Json.spells_self (by decide), fun _ => .cyclePeriod rfl hperiod,
    fun h => absurd (by decide) h⟩

/-- Unknown members with any values, an escaped name, and half of the constants: the rest
    has its default. -/
theorem sparse_config_loads :
    let text := "\x7b\"note\":[1e999,\"\\ud800\"],\n" ++
      "\"timing\":\x7b\"cycle_period_ns\": 25e-1\x7d,\"\\u0070arallel\" :false\x7d"
    sparse.Written text ∧ Config.ofJson (Text.utf8 text) = .ok
      { timing := { cyclePeriod := Decimal.round false ⟨25, -1⟩ }, parallel := false } := by
  intro text
  have hwritten : sparse.Written text := by
    have htext : text.toList =
        [] ++ (('\x7b' :: ([','].intercalate (sparseMembers.map (·.text)) ++ ['\x7d'])) ++ []) := by
      decide
    have hpadded : ∀ m ∈ sparseMembers, m.Padded := by
      simp only [sparseMembers, List.forall_mem_cons]
      exact ⟨⟨by decide, by decide, by decide, by decide⟩,
        ⟨by decide, by decide, by decide, by decide⟩,
        ⟨by decide, by decide, by decide, by decide⟩, nofun⟩
    rw [Config.Partial.Written, htext]
    refine .padded (by decide) ?_ (by decide)
    refine .members ["note", "timing", "parallel"] sparseMembers ⟨hpadded, .parts⟩ ?_ (by decide)
    have hcode : Json.HexCode ['0', '0', '7', '0'] 'p'.toNat :=
      @Json.HexCode.digits _ _ _ _ 0 0 7 0 (by decide) (by decide) (by decide) (by decide)
    refine .cons ?_ (.cons ?_ (.cons ?_ .nil))
    · exact ⟨Json.spells_self (by decide), fun h => absurd h (by decide),
        fun _ => isValue_sparseItems⟩
    · exact ⟨Json.spells_self (by decide), fun _ => .timing rfl isObject_sparseTiming,
        fun h => absurd (by decide) h⟩
    · exact ⟨.code hcode (Json.spells_self (by decide)), fun _ => .parallel rfl .word,
        fun h => absurd (by decide) h⟩
  have hcomplete : sparse.complete =
      { timing := { cyclePeriod := Decimal.round false ⟨25, -1⟩ }, parallel := false } := by
    simp only [sparse, Config.Partial.complete, Timing.Partial.complete, Option.map_none,
      Option.map_some, Option.getD_none, Option.getD_some]
  exact ⟨hwritten, hcomplete ▸ (partial_config_loads hwritten).1⟩

end PolicyBench
