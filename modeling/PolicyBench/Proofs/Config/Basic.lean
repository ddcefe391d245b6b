/-
  PolicyBench — which configurations are accepted.

  * `repeatedAfter_eq_nil_iff`: no policy is reported as repeated exactly if the
    policies are distinct;
  * `validate_eq_ok_iff`: the checks of a configuration, all at once;
  * `Timing.validate_default`, `Config.validate_default`: the defaults pass them.
-/
import PolicyBench.Config.Basic

namespace PolicyBench

theorem repeatedAfter_eq_nil_iff {before names : List String} (h : before.Nodup) :
    repeatedAfter before names = [] ↔ names.Nodup ∧ ∀ name ∈ names, name ∉ before := by
  induction names generalizing before with
  | nil => simp [repeatedAfter]
  | cons name rest ih =>
    by_cases hmem : name ∈ before
    · have hcount : before.count name = 1 := by rw [h.count, if_pos hmem]
      simp [repeatedAfter, hcount, hmem]
    · have hcount : before.count name ≠ 1 := by simp [List.count_eq_zero.2 hmem]
      rw [repeatedAfter, if_neg hcount, ih (List.nodup_cons.2 ⟨hmem, h⟩), List.nodup_cons]
      constructor
      · rintro ⟨hrest, hfresh⟩
        refine ⟨⟨fun hname => hfresh name hname List.mem_cons_self, hrest⟩, fun n hn => ?_⟩
        rcases List.mem_cons.1 hn with rfl | hn
        · exact hmem
        · exact fun hb => hfresh n hn (List.mem_cons_of_mem _ hb)
      · rintro ⟨⟨hname, hrest⟩, hfresh⟩
        refine ⟨hrest, fun n hn hb => ?_⟩
        rcases List.mem_cons.1 hb with rfl | hb
        · exact hname hn
        · exact hfresh n (List.mem_cons_of_mem _ hn) hb

/-- What a configuration has to satisfy. -/
theorem Config.validate_eq_ok_iff {config : Config} :
    config.validate = .ok () ↔
      config.policies ≠ [] ∧ (∀ policy ∈ config.policies, isPolicyName policy = true) ∧
        config.policies.Nodup ∧ config.baseline ∈ config.policies ∧
        config.timing.validate = .ok () := by
  have hrepeated : repeatedAfter [] config.policies = [] ↔ config.policies.Nodup := by
    rw [repeatedAfter_eq_nil_iff List.nodup_nil]; simp
  have hnames : config.policies.find? (!isPolicyName ·) = none ↔
      ∀ policy ∈ config.policies, isPolicyName policy = true := by
    simp [List.find?_eq_none]
  rw [← hrepeated, ← hnames]
  unfold validate
  constructor
  · intro h
    split at h
    · cases h
    · next hne =>
      split at h
      · cases h
      · next hnone =>
        split at h
        · next hnil =>
          split at h
          · next hbaseline => exact ⟨hne, hnone, hnil, hbaseline, h⟩
          · cases h
        · cases h
  · rintro ⟨hne, hnone, hnil, hbaseline, htiming⟩
    rw [if_neg hne, hnone, hnil]
    dsimp only
    rw [if_pos hbaseline, htiming]

/-- The constants that are used where none are given pass their check. -/
theorem Timing.validate_default : ({} : Timing).validate = .ok () := by
  unfold validate
  exact if_pos (by decide +kernel)

/-- The settings that are used where none are given are accepted. -/
theorem Config.validate_default : ({} : Config).validate = .ok () :=
  validate_eq_ok_iff.2 ⟨by decide, by decide, by decide, by decide, Timing.validate_default⟩

end PolicyBench
