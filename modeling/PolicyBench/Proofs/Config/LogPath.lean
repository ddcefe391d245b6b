/-
  PolicyBench — where the logs are.

  The name of a policy is the way to an entry of the directory of the results.
  Slashes and dots behind that entry say nothing, so that names that are spelled
  differently can stand for one entry, and then for one log.

  * `entryName`: what a name says before its first slash, which is all that the
    name of a policy says (`components_of_isPolicyName`);
  * `Config.components_logPath`: the way to the log of a policy;
  * `Config.same_logPath_iff`: two policies have the same log exactly if their
    names say the same before the first slash.
-/
import PolicyBench.Proofs.Config.Basic
import PolicyBench.Proofs.Path

namespace PolicyBench

/-! ## Names of policies -/

/-- What a name says before its first slash. -/
def entryName (name : String) : String := String.ofList (name.toList.takeWhile (· ≠ '/'))

theorem isPolicyName_iff {name : String} :
    isPolicyName name = true ↔ ∃ entry, Path.components ⟨name⟩ = [.named entry] := by
  unfold isPolicyName
  split
  · next entry h => simp [h]
  · next h =>
    refine ⟨nofun, ?_⟩
    rintro ⟨entry, hentry⟩
    exact absurd hentry (h entry)

/-- The name of a policy stands for one entry, the one that it says before its
    first slash. -/
theorem components_of_isPolicyName {name : String} (h : isPolicyName name = true) :
    Path.components ⟨name⟩ = [.named (entryName name)] := by
  obtain ⟨entry, hentry⟩ := isPolicyName_iff.1 h
  have hroot : .root ∉ Path.components ⟨name⟩ := by simp [hentry]
  have hcurrent : .current ∉ Path.components ⟨name⟩ := by simp [hentry]
  have hrelative := mt Path.root_mem_components hroot
  have hparts := Path.components_eq_partsComponents hroot hcurrent
  obtain ⟨first, rest, hname⟩ := List.exists_cons_of_ne_nil (Text.parts_ne_nil '/' name.toList)
  have hfirst := Text.head?_parts '/' name.toList
  rw [hname, List.head?_cons, Option.some.injEq] at hfirst
  cases hcomponent : Path.componentOf first with
  | none =>
    rcases Path.componentOf_eq_none_iff.1 hcomponent with rfl | rfl
    · obtain rfl := Path.eq_empty_of_takeWhile hfirst.symm (Bool.eq_false_iff.2 hrelative)
      cases hentry
    · simp [Path.components, hname, hrelative] at hcurrent
  | some c =>
    rw [hentry, Path.partsComponents, hname, List.filterMap_cons_some hcomponent] at hparts
    obtain ⟨rfl, -⟩ := List.cons.inj hparts
    obtain ⟨-, -, -, rfl⟩ := Path.componentOf_eq_some_named_iff.1 hcomponent
    rw [hentry, entryName, hfirst]

/-! ## Logs -/

namespace Config

variable {config : Config} {p q : String}

/-- The way to the log of a policy: to the results, to the entry of the policy,
    and to the file. -/
theorem components_logPath (hp : isPolicyName p = true) (hlog : Path.IsFileName config.logName) :
    (config.logPath p).components =
      config.resultsDir.components ++ [.named (entryName p), .named config.logName] := by
  have hentry := components_of_isPolicyName hp
  have hfile := Path.components_of_isFileName hlog
  rw [logPath, Path.components_join (by simp [hfile]) (by simp [hfile]),
    Path.components_join (by simp [hentry]) (by simp [hentry]), hentry, hfile, List.append_assoc]
  rfl

/-- **Two policies have the same log exactly if their names say the same before
    the first slash.** -/
theorem same_logPath_iff (hvalid : config.validate = .ok ())
    (hlog : Path.IsFileName config.logName) (hp : p ∈ config.policies) (hq : q ∈ config.policies) :
    (config.logPath p).Same (config.logPath q) ↔ entryName p = entryName q := by
  obtain ⟨-, hnames, -⟩ := validate_eq_ok_iff.1 hvalid
  rw [Path.Same, components_logPath (hnames p hp) hlog, components_logPath (hnames q hq) hlog,
    List.append_cancel_left_eq]
  simp

/-- Policies of which two are spelled differently and stand for the same entry. -/
def twoSpellings : Config where
  resultsDir := ⟨"results"⟩
  logName := "run.log"
  policies := ["a", "a/", "b"]
  baseline := "a"

theorem validate_twoSpellings : twoSpellings.validate = .ok () :=
  validate_eq_ok_iff.2 ⟨by decide, by decide, by decide, by decide, Timing.validate_default⟩

theorem isFileName_twoSpellings : Path.IsFileName twoSpellings.logName :=
  ⟨by decide, by decide, by decide, by decide⟩

/-- The two spellings have one log, the other policy has another. -/
theorem same_logPath_twoSpellings :
    (twoSpellings.logPath "a").Same (twoSpellings.logPath "a/") ∧
      ¬ (twoSpellings.logPath "a").Same (twoSpellings.logPath "b") := by
  have hiff (q : String) (hq : q ∈ twoSpellings.policies) :=
    same_logPath_iff validate_twoSpellings isFileName_twoSpellings (p := "a") (by decide) hq
  exact ⟨(hiff "a/" (by decide)).2 (by decide), mt (hiff "b" (by decide)).1 (by decide)⟩

/-- Policies with different names can be accepted and still have the same log. -/
theorem accepted_with_same_log :
    twoSpellings.validate = .ok () ∧ Path.IsFileName twoSpellings.logName ∧
      "a" ∈ twoSpellings.policies ∧ "a/" ∈ twoSpellings.policies ∧ "a" ≠ "a/" ∧
      (twoSpellings.logPath "a").Same (twoSpellings.logPath "a/") :=
  ⟨validate_twoSpellings, isFileName_twoSpellings, by decide, by decide, by decide, by decide⟩

end Config

end PolicyBench
