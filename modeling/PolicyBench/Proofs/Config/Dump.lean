/-
  PolicyBench — configurations written and read again.

  The text of a configuration is in the grammar of configuration files and gives every
  setting.  So reading it gives the configuration back, up to the rounding that numbers
  undergo when they are read.  A clock period that is not finite is written as `null`, and
  that is refused.

  * `Config.written_toJson`: the text of a configuration gives all its settings;
  * `dumped_config_loads`: what reading it gives;
  * `not_every_dump_restores`: the clock period is not always the same in every bit.
-/
import PolicyBench.Proofs.Config.Partial
import PolicyBench.Proofs.Json.Float
import PolicyBench.Proofs.Json.Writing

namespace PolicyBench

-- `2 ^ n` is the core library's power, also where another one is in scope.
attribute [local instance (high)] instPowNat

-- What holds of all elements of a list is decided on the list, also where its type is finite.
attribute [local instance (high)] List.decidableBAll

open Json (Document Member IsText IsFloat)
open Binary64 (finite spacing)

/-! ## Objects -/

theorem toList_jsonMember (name value : String) :
    (jsonMember name value).toList = (Member.plain name value.toList).text := by
  rw [Member.text_plain, jsonMember, String.toList_append, String.toList_append,
    List.append_assoc]
  rfl

/-- An object of members without blanks. -/
theorem isObject_jsonObject (members : List (String × String)) :
    Json.IsObject (members.map fun m => .plain m.1 m.2.toList)
      (jsonObject (members.map fun m => jsonMember m.1 m.2)).toList := by
  have hmembers : (members.map fun m => Member.plain m.1 m.2.toList).map Member.text =
      (members.map fun m => jsonMember m.1 m.2).map String.toList := by
    simp only [List.map_map, Function.comp_def, toList_jsonMember]
  refine ⟨?_, ?_⟩
  · simp only [List.forall_mem_map]
    exact fun m _ => Member.plain_padded _ _
  · have hbrackets := Json.inBrackets_intercalate '\x7b' '\x7d'
      ((members.map fun m => jsonMember m.1 m.2).map String.toList)
    rw [hmembers, jsonObject, String.toList_append, String.toList_append,
      String.toList_intercalate]
    exact hbrackets

/-! ## The text of a configuration -/

/-- The members of the text of the timing constants. -/
def Timing.members (timing : Timing) : List (String × String) :=
  [("cycle_period_ns", Json.writeFloat timing.cyclePeriod),
    ("workload_token_count", Nat.repr timing.tokens.toNat)]

/-- The members of the text of a configuration. -/
def Config.members (config : Config) : List (String × String) :=
  [("results_dir", Json.quoted config.resultsDir.text),
    ("log_file_name", Json.quoted config.logName),
    ("output_file_name", Json.quoted config.outputName),
    ("policies", "[" ++ ",".intercalate (config.policies.map Json.quoted) ++ "]"),
    ("baseline", Json.quoted config.baseline),
    ("timing", config.timing.toJson),
    ("parallel", if config.parallel then "true" else "false")]

theorem Timing.isObject_toJson (timing : Timing) :
    Json.IsObject (timing.members.map fun m => .plain m.1 m.2.toList) timing.toJson.toList :=
  isObject_jsonObject timing.members

theorem Config.isObject_toJson (config : Config) :
    Json.IsObject (config.members.map fun m => .plain m.1 m.2.toList) config.toJson.toList :=
  isObject_jsonObject config.members

/-- All constants, with `x` for the clock period. -/
def Timing.full (timing : Timing) (x : Binary64) : Timing.Partial :=
  { cyclePeriod := some x, tokens := some timing.tokens }

/-- All settings, with `x` for the clock period. -/
def Config.full (config : Config) (x : Binary64) : Config.Partial where
  resultsDir := some config.resultsDir.text
  logName := some config.logName
  outputName := some config.outputName
  policies := some config.policies
  baseline := some config.baseline
  timing := some (config.timing.full x)
  parallel := some config.parallel

theorem Config.complete_full (config : Config) (x : Binary64) :
    (config.full x).complete =
      { config with timing := { config.timing with cyclePeriod := x } } := by
  simp only [full, Timing.full, Partial.complete, Timing.Partial.complete, Option.map_some,
    Option.getD_some]

/-- A member without blanks gives what its value gives. -/
theorem isMember_plain {fields : List String} {gives : String → List Char → Prop} {name : String}
    {value : List Char} (hname : name ∈ fields) (h : gives name value) :
    Json.IsMember fields gives name (.plain name value) :=
  ⟨Json.spells_quotedChar _, fun _ => h, fun hnot => absurd hname hnot⟩

section
variable {x : Binary64}

theorem Timing.isObject_full {timing : Timing}
    (h : IsFloat x (Json.writeFloat timing.cyclePeriod).toList) :
    (timing.full x).IsObject timing.toJson.toList := by
  have hgiven : (timing.full x).given = ["cycle_period_ns", "workload_token_count"] := rfl
  rw [Timing.Partial.IsObject, hgiven]
  refine .members ["cycle_period_ns", "workload_token_count"] _ timing.isObject_toJson ?_
    (by decide)
  refine .cons ?_ (.cons ?_ .nil)
  · exact isMember_plain (by decide) (.cyclePeriod rfl h)
  · exact isMember_plain (by decide) (.tokens rfl (Json.isNatural_repr _))

theorem Config.isObject_full {config : Config}
    (h : IsFloat x (Json.writeFloat config.timing.cyclePeriod).toList) :
    (config.full x).IsObject config.toJson.toList := by
  have hgiven : (config.full x).given = ["results_dir", "log_file_name", "output_file_name",
      "policies", "baseline", "timing", "parallel"] := rfl
  rw [Config.Partial.IsObject, hgiven]
  refine .members ["results_dir", "log_file_name", "output_file_name", "policies", "baseline",
    "timing", "parallel"] _ config.isObject_toJson ?_ (by decide)
  refine .cons ?_ (.cons ?_ (.cons ?_ (.cons ?_ (.cons ?_ (.cons ?_ (.cons ?_ .nil))))))
  · exact isMember_plain (by decide) (.resultsDir rfl (Json.isText_quoted _))
  · exact isMember_plain (by decide) (.logName rfl (Json.isText_quoted _))
  · exact isMember_plain (by decide) (.outputName rfl (Json.isText_quoted _))
  · exact isMember_plain (by decide) (.policies rfl (Json.isTexts_intercalate _))
  · exact isMember_plain (by decide) (.baseline rfl (Json.isText_quoted _))
  · exact isMember_plain (by decide) (.timing rfl (Timing.isObject_full h))
  · exact isMember_plain (by decide) (.parallel rfl .word)

/-- The text of a configuration gives all settings. -/
theorem Config.written_toJson {config : Config}
    (h : IsFloat x (Json.writeFloat config.timing.cyclePeriod).toList) :
    (config.full x).Written config.toJson := by
  have halone := @Json.Alone.padded (config.full x).IsObject [] _ [] nofun
    (Config.isObject_full h) nofun
  rwa [List.nil_append, List.append_nil] at halone

end

/-! ## A period that is not finite -/

theorem exists_readAs_plain {name : String} {value : List Char}
    (h : ∃ d : Document, d.ReadFrom value) : ∃ p, (Member.plain name value).ReadAs p := by
  obtain ⟨d, hd⟩ := h
  obtain ⟨units, hscans, -⟩ := (Json.spells_quotedChar name.toList).exists_scans
  exact ⟨(⟨units, none⟩, d), ⟨units, hscans, rfl⟩, hd⟩

theorem exists_readFrom_quoted (s : String) :
    ∃ d : Document, d.ReadFrom (Json.quoted s).toList :=
  (Json.isText_quoted s).exists_readText.imp fun _ => And.left

theorem Timing.exists_refused {timing : Timing} (h : timing.cyclePeriod.isFinite = false) :
    ∃ d : Document, d.ReadFrom timing.toJson.toList ∧
      ∀ t, ∃ fault, Json.readStructure timingFields t d = .error fault := by
  have hvalue : Document.null.ReadFrom (Json.writeFloat timing.cyclePeriod).toList :=
    Json.writeFloat_of_not_finite h ▸ Json.readFrom_null
  have hrefused : Json.readFloat .null = .error .wrongShape := rfl
  have hnatural := (Json.isNatural_repr timing.tokens).exists_readNatural
  have hobject := timing.isObject_toJson
  simp only [members, List.map_cons, List.map_nil] at hobject
  have hfind : timingFields.find? (·.name == "cycle_period_ns") = some ⟨"cycle_period_ns",
      fun t v => do return { t with cyclePeriod := ← Json.readFloat v }⟩ := rfl
  refine hobject.exists_refused hfind ?_ List.mem_cons_self
    (Json.spells_quotedChar "cycle_period_ns".toList) ⟨.null, hvalue, Json.refuses_of_read hrefused⟩
  simp only [List.forall_mem_cons]
  exact ⟨exists_readAs_plain ⟨_, hvalue⟩, exists_readAs_plain (hnatural.imp fun _ => And.left),
    List.forall_mem_nil _⟩

theorem Config.exists_refused {config : Config} (h : config.timing.cyclePeriod.isFinite = false) :
    ∃ d : Document, d.ReadFrom config.toJson.toList ∧
      ∀ c, ∃ fault, Json.readStructure configFields c d = .error fault := by
  obtain ⟨d, hd, hrefused⟩ := Timing.exists_refused h
  have hpolicies := (Json.isTexts_intercalate config.policies).exists_readTexts
  have hparallel := (Json.IsBool.word (b := config.parallel)).exists_readBool
  have hobject := config.isObject_toJson
  simp only [members, List.map_cons, List.map_nil] at hobject
  have hfind : configFields.find? (·.name == "timing") = some ⟨"timing", fun c v => do
      return { c with timing := ← Json.readStructure timingFields {} v }⟩ := rfl
  obtain ⟨fault, hfault⟩ := hrefused {}
  refine hobject.exists_refused hfind ?_ (m := .plain "timing" config.timing.toJson.toList)
    (by simp) (Json.spells_quotedChar "timing".toList) ⟨d, hd, Json.refuses_of_read hfault⟩
  simp only [List.forall_mem_cons]
  exact ⟨exists_readAs_plain (exists_readFrom_quoted _),
    exists_readAs_plain (exists_readFrom_quoted _),
    exists_readAs_plain (exists_readFrom_quoted _),
    exists_readAs_plain (hpolicies.imp fun _ => And.left),
    exists_readAs_plain (exists_readFrom_quoted _),
    exists_readAs_plain ⟨d, hd⟩,
    exists_readAs_plain (hparallel.imp fun _ => And.left), List.forall_mem_nil _⟩

/-! ## Reading the text -/

/-- Read again, the text of a configuration gives all its settings, with the clock period that
    the text of its number gives. -/
theorem Config.ofJson_toJson {config : Config} {x : Binary64}
    (h : IsFloat x (Json.writeFloat config.timing.cyclePeriod).toList) :
    Config.ofJson (Text.utf8 config.toJson) =
      .ok { config with timing := { config.timing with cyclePeriod := x } } := by
  rw [← config.complete_full x]
  exact (Config.written_toJson h).ofJson

theorem Config.ofJson_toJson_refused {config : Config}
    (h : config.timing.cyclePeriod.isFinite = false) :
    ∃ fault, Config.ofJson (Text.utf8 config.toJson) = .error fault := by
  have halone := @Json.Alone.padded (· = config.toJson.toList) [] _ [] nofun rfl nofun
  rw [List.nil_append, List.append_nil] at halone
  refine Json.readAll_refused (fun cs hcs => ?_) halone
  obtain ⟨d, hd, hrefused⟩ := Config.exists_refused h
  exact ⟨d, hcs ▸ hd, hrefused {}⟩

/-- **What a dumped configuration is when it is read again.**  Whatever its texts, policies and
    token count are, they come back, and so does the sign of a finite clock period.  The period
    itself is no further than six places from what it was, and the same in every bit if its text
    has few digits.  A period that is not finite is written as `null`, and makes reading fail. -/
theorem dumped_config_loads (config : Config) :
    (∀ negative units hr, config.timing.cyclePeriod = finite negative units hr →
      ∃ units' hr', Config.ofJson (Text.utf8 config.toJson) =
          .ok { config with
            timing := { config.timing with cyclePeriod := finite negative units' hr' } } ∧
        |(units' : ℤ) - units| ≤ 6 * 2 ^ spacing units ∧
        (Json.BrieflyWritten units → units' = units)) ∧
    (config.timing.cyclePeriod.isFinite = false →
      config.timing.toJson = jsonObject [
        jsonMember "cycle_period_ns" "null",
        jsonMember "workload_token_count" (Nat.repr config.timing.tokens.toNat)] ∧
      ∃ fault, Config.ofJson (Text.utf8 config.toJson) = .error fault) := by
  refine ⟨fun negative units hr hperiod => ?finite, fun hinfinite => ⟨?null, ?refused⟩⟩
  case finite =>
    obtain ⟨hr', hfloat⟩ := Json.isFloat_writeFloat hr negative
    refine ⟨Json.rereadUnits units, hr', Config.ofJson_toJson (hperiod ▸ hfloat), ?_,
      Json.rereadUnits_eq hr⟩
    exact_mod_cast Json.dist_rereadUnits_le hr
  case null => rw [Timing.toJson, Json.writeFloat_of_not_finite hinfinite]
  case refused => exact Config.ofJson_toJson_refused hinfinite

/-- Escapes, characters beyond ASCII, no policies, the greatest token count and a period of
    five eighths come back as they were; with NaN for the period reading fails. -/
theorem escaped_config_loads :
    let config : Config :=
      { resultsDir := ⟨"é\\\"\u2028😀"⟩, logName := "\x00\x1f\t/", policies := []
        timing := { cyclePeriod := Decimal.round false ⟨625, -3⟩, tokens := 18446744073709551615 } }
    Config.ofJson (Text.utf8 config.toJson) = .ok config ∧
      ∃ fault, Config.ofJson (Text.utf8 { config with
        timing := { config.timing with cyclePeriod := .nan } }.toJson) = .error fault := by
  obtain ⟨units, hr, hround, hbrief⟩ : ∃ units hr,
      Decimal.round false ⟨625, -3⟩ = finite false units hr ∧ Json.BrieflyWritten units := by
    obtain ⟨hr, hround⟩ := @Binary64.round_eq_finite false ⟨625, -3⟩ (by decide +kernel)
    exact ⟨_, hr, hround, by decide +kernel⟩
  rw [hround]
  intro config
  obtain ⟨units', hr', hread, -, hsame⟩ := (dumped_config_loads config).1 false units hr rfl
  obtain rfl := hsame hbrief
  obtain ⟨-, hrefused⟩ := (dumped_config_loads { config with
    timing := { config.timing with cyclePeriod := .nan } }).2 rfl
  exact ⟨hread, hrefused⟩

/-- The period of a clock of 540 MHz, 1.8518518518518519 ns, does not come back: it is read as
    1.851851851851852 ns. -/
theorem not_every_dump_restores :
    let config : Config :=
      { timing := { cyclePeriod := Decimal.round false ⟨18518518518518519, -16⟩ } }
    config.timing.cyclePeriod.isFinite = true ∧
      Config.ofJson (Text.utf8 config.toJson) = .ok
        { timing := { cyclePeriod := Decimal.round false ⟨1851851851851852, -15⟩ } } ∧
      Config.ofJson (Text.utf8 config.toJson) ≠ .ok config := by
  obtain ⟨units, hr, hround, units', hr', hround', hreread, hne⟩ : ∃ units hr,
      Decimal.round false ⟨18518518518518519, -16⟩ = finite false units hr ∧ ∃ units' hr',
      Decimal.round false ⟨1851851851851852, -15⟩ = finite false units' hr' ∧
      Json.rereadUnits units = units' ∧ units' ≠ units := by
    obtain ⟨hr, hround⟩ :=
      @Binary64.round_eq_finite false ⟨18518518518518519, -16⟩ (by decide +kernel)
    obtain ⟨hr', hround'⟩ :=
      @Binary64.round_eq_finite false ⟨1851851851851852, -15⟩ (by decide +kernel)
    exact ⟨_, hr, hround, _, hr', hround', by decide +kernel, by decide +kernel⟩
  subst hreread
  rw [hround, hround']
  intro config
  obtain ⟨_, hfloat⟩ := Json.isFloat_writeFloat hr false
  have hread : Config.ofJson (Text.utf8 config.toJson) = _ := Config.ofJson_toJson hfloat
  refine ⟨rfl, hread, fun hsame => hne ?_⟩
  rw [hread] at hsame
  simpa [config] using hsame

end PolicyBench
