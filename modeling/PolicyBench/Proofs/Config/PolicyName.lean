/-
  PolicyBench — names of policies and where they lead.

  The name of a policy is an entry of the directory of the results, followed at most
  by slashes and dots that say nothing.  So whatever the name and the directory are,
  the policy is found right in that directory: not at another place, and not at the
  directory itself.

  * `parts_eq_splitOn`: the parts of a text are those of the library's `splitOn`;
  * `isPolicyName_iff_parts`: which names are accepted, by the parts between slashes;
  * `components_join_of_isPolicyName`: the way to the directory of a policy;
  * `policies_below_results`: both, for every accepted configuration.
-/
import PolicyBench.Proofs.Config.LogPath

namespace PolicyBench

/-! ## Parts -/

namespace Text

theorem parts_eq_splitOn (sep : Char) (cs : List Char) : parts sep cs = cs.splitOn sep := by
  induction cs with
  | nil => rfl
  | cons c cs ih =>
    rw [List.splitOn] at ih ⊢
    rw [List.splitOnP_cons_eq_if_modifyHead, ← ih]
    by_cases hc : c = sep
    · rw [parts, if_pos hc, if_pos (beq_iff_eq.2 hc)]
    · obtain ⟨p, ps, hp, hcons⟩ := parts_cons_of_ne hc cs
      rw [hcons, hp, if_neg (mt beq_iff_eq.1 hc), List.modifyHead_cons]

/-- A text whose first part is empty begins with the separator, or is empty. -/
theorem eq_nil_of_parts_eq_nil_cons {sep : Char} {cs : List Char} {rest : List (List Char)}
    (h : parts sep cs = [] :: rest) (hhead : cs.head? ≠ some sep) : cs = [] := by
  cases cs with
  | nil => rfl
  | cons c cs =>
    have hc : c ≠ sep := fun hc => hhead (by rw [hc]; rfl)
    obtain ⟨p, ps, -, hcons⟩ := parts_cons_of_ne hc cs
    rw [hcons] at h
    cases h

end Text

/-! ## Accepted names -/

variable {name : String}

/-- What the parts of an accepted name are: an entry, and then nothing but empty parts
    and single dots. -/
structure NamesEntry (first : List Char) (rest : List (List Char)) : Prop where
  ne_empty : first ≠ []
  ne_current : first ≠ ['.']
  ne_parent : first ≠ ['.', '.']
  nothing_behind : ∀ part ∈ rest, part = [] ∨ part = ['.']

theorem filterMap_componentOf_eq_nil_iff {rest : List (List Char)} :
    rest.filterMap Path.componentOf = [] ↔ ∀ part ∈ rest, part = [] ∨ part = ['.'] := by
  simp only [List.filterMap_eq_nil_iff, Path.componentOf_eq_none_iff]

/-- A name that begins with a part of its own is the way to that entry and on. -/
theorem components_of_parts {first : List Char} {rest : List (List Char)}
    (hparts : Text.parts '/' name.toList = first :: rest) (hne : first ≠ [])
    (hcurrent : first ≠ ['.']) :
    Path.components ⟨name⟩ =
      (Path.componentOf first).toList ++ rest.filterMap Path.componentOf := by
  have hrelative : ¬ Path.isAbsolute ⟨name⟩ = true := by
    intro habsolute
    have hhead := Text.head?_parts '/' name.toList
    obtain ⟨c, cs, hcs⟩ := List.exists_cons_of_ne_nil fun hnil : name.toList = [] => by
      simp [Path.isAbsolute, hnil] at habsolute
    rw [Path.isAbsolute, hcs, List.head?_cons, beq_iff_eq, Option.some.injEq] at habsolute
    rw [hparts, hcs, habsolute] at hhead
    exact hne (by simpa using hhead)
  rw [Path.components, hparts]
  dsimp only
  rw [if_neg hrelative, if_neg hcurrent]

/-- **A name is accepted exactly if its first part is an entry and the others say
    nothing.** -/
theorem isPolicyName_iff_parts : isPolicyName name = true ↔
    ∃ first rest, name.toList.splitOn '/' = first :: rest ∧ NamesEntry first rest := by
  simp only [← Text.parts_eq_splitOn]
  constructor
  · intro h
    obtain ⟨first, rest, hparts⟩ := List.exists_cons_of_ne_nil (Text.parts_ne_nil '/' name.toList)
    obtain ⟨entry, hentry⟩ := isPolicyName_iff.1 h
    have hrelative : Path.isAbsolute ⟨name⟩ ≠ true :=
      mt Path.root_mem_components (by simp [hentry])
    have hne : first ≠ [] := by
      rintro rfl
      have hfront : name.toList.head? ≠ some '/' := by simpa [Path.isAbsolute] using hrelative
      have hnil := Text.eq_nil_of_parts_eq_nil_cons hparts hfront
      rw [String.toList_eq_nil_iff.1 hnil] at hentry
      cases hentry
    have hcurrent : first ≠ ['.'] := by
      rintro rfl
      simp [Path.components, hparts, hrelative] at hentry
    rw [components_of_parts hparts hne hcurrent] at hentry
    obtain ⟨c, hc⟩ := Option.ne_none_iff_exists'.1
      (mt Path.componentOf_eq_none_iff.1 (not_or.2 ⟨hne, hcurrent⟩))
    rw [hc, Option.toList_some, List.singleton_append, List.cons.injEq] at hentry
    obtain ⟨rfl, hrest⟩ := hentry
    obtain ⟨-, -, hparent, -⟩ := Path.componentOf_eq_some_named_iff.1 hc
    exact ⟨first, rest, hparts, hne, hcurrent, hparent, filterMap_componentOf_eq_nil_iff.1 hrest⟩
  · rintro ⟨first, rest, hparts, h⟩
    have hentry := Path.componentOf_eq_some_named_iff.2
      ⟨h.ne_empty, h.ne_current, h.ne_parent, rfl⟩
    rw [isPolicyName_iff, components_of_parts hparts h.ne_empty h.ne_current, hentry,
      filterMap_componentOf_eq_nil_iff.2 h.nothing_behind]
    exact ⟨_, rfl⟩

/-- A name without slashes and dots is accepted. -/
theorem isPolicyName_of_forall_ne (hne : name ≠ "") (h : ∀ c ∈ name.toList, c ≠ '/' ∧ c ≠ '.') :
    isPolicyName name = true := by
  have hdot : '.' ∉ name.toList := fun hmem => (h _ hmem).2 rfl
  have hsplit : name.toList.splitOn '/' = [name.toList] :=
    List.splitOnP_eq_singleton fun c hc => beq_eq_false_iff_ne.2 (h c hc).1
  refine isPolicyName_iff_parts.2 ⟨_, _, hsplit, ?_, ?_, ?_, List.forall_mem_nil _⟩
  · exact fun hnil => hne (String.toList_eq_nil_iff.1 hnil)
  · exact fun hcurrent => hdot (hcurrent ▸ List.mem_cons_self)
  · exact fun hparent => hdot (hparent ▸ List.mem_cons_self)

/-- Slashes and dots behind an entry are accepted, and nothing that leads elsewhere. -/
example : ["a", "a/", "a//./", "", ".", "..", "/a", "./a", "a/..", "a/b"].map isPolicyName =
    [true, true, true, false, false, false, false, false, false, false] := by decide

/-! ## Directories of policies -/

theorem entryName_of_parts {first : List Char} {rest : List (List Char)}
    (hparts : name.toList.splitOn '/' = first :: rest) : entryName name = String.ofList first := by
  have hhead := Text.head?_parts '/' name.toList
  rw [Text.parts_eq_splitOn, hparts, List.head?_cons, Option.some.injEq] at hhead
  rw [entryName, ← hhead]

/-- The way to the directory of a policy: to the results, and to one entry of them. -/
theorem components_join_of_isPolicyName (dir : Path) (h : isPolicyName name = true) :
    (dir.join name).components = dir.components ++ [.named (entryName name)] := by
  have hentry := components_of_isPolicyName h
  rw [Path.components_join (by simp [hentry]) (by simp [hentry]), hentry]

/-- A relative path seen from a directory is absolute only if the directory is. -/
theorem isAbsolute_join (dir : Path) (h : Path.isAbsolute ⟨name⟩ = false) :
    (dir.join name).isAbsolute = dir.isAbsolute := by
  unfold Path.join
  rw [if_neg (Bool.eq_false_iff.1 h)]
  obtain ⟨text⟩ := dir
  by_cases hempty : text = ""
  · subst hempty
    simpa [Path.isAbsolute] using h
  · obtain ⟨c, cs, hcs⟩ := List.exists_cons_of_ne_nil (mt String.toList_eq_nil_iff.1 hempty)
    split <;> simp [Path.isAbsolute, hcs]

/-- **The directory of a policy is an entry of the results.**  A name is accepted
    exactly if its first part is neither empty nor one or two dots and all others are
    empty or a dot.  Then, whatever the directory of the results is, that of the policy
    is the entry named by the first part: it is neither the directory of the results
    nor above it, and it is absolute only if that is. -/
theorem policies_below_results :
    (∀ name, isPolicyName name = true ↔
      ∃ first rest, name.toList.splitOn '/' = first :: rest ∧ NamesEntry first rest) ∧
    ∀ config : Config, config.validate = .ok () → ∀ policy ∈ config.policies,
      (∃ first rest, policy.toList.splitOn '/' = first :: rest ∧
        (config.resultsDir.join policy).components =
          config.resultsDir.components ++ [.named (String.ofList first)]) ∧
      ¬ (config.resultsDir.join policy).components <+: config.resultsDir.components ∧
      (config.resultsDir.join policy).isAbsolute = config.resultsDir.isAbsolute := by
  refine ⟨fun name => isPolicyName_iff_parts, fun config hvalid policy hpolicy => ?_⟩
  obtain ⟨-, hnames, -⟩ := Config.validate_eq_ok_iff.1 hvalid
  have hname := hnames policy hpolicy
  have hway := components_join_of_isPolicyName config.resultsDir hname
  obtain ⟨first, rest, hparts, -⟩ := isPolicyName_iff_parts.1 hname
  have hrelative : Path.isAbsolute ⟨policy⟩ = false := by
    rw [← Bool.not_eq_true]
    exact mt Path.root_mem_components (by simp [components_of_isPolicyName hname])
  refine ⟨⟨first, rest, hparts, ?_⟩, fun hprefix => ?_, isAbsolute_join _ hrelative⟩
  · rw [hway, entryName_of_parts hparts]
  · have hlength := hprefix.length_le
    rw [hway, List.length_append, List.length_singleton] at hlength
    omega

/-- Also a name that ends in a slash leads to one entry of the results. -/
theorem policies_below_results_twoSpellings :
    Config.twoSpellings.validate = .ok () ∧ "a/" ∈ Config.twoSpellings.policies ∧
      isPolicyName "a/" = true ∧
      (Config.twoSpellings.resultsDir.join "a/").components =
        Config.twoSpellings.resultsDir.components ++ [.named "a"] ∧
      ¬ (Config.twoSpellings.resultsDir.join "a/").components <+:
        Config.twoSpellings.resultsDir.components := by
  have hmem : "a/" ∈ Config.twoSpellings.policies := by decide
  obtain ⟨⟨first, rest, hparts, hway⟩, hbelow, -⟩ :=
    policies_below_results.2 _ Config.validate_twoSpellings _ hmem
  obtain rfl : ['a'] = first := (List.cons.inj hparts).1
  refine ⟨Config.validate_twoSpellings, hmem, ?_, hway, hbelow⟩
  exact (policies_below_results.1 _).2
    ⟨['a'], [[]], rfl, by decide, by decide, by decide, by decide⟩

end PolicyBench
