/-
  PolicyBench — the names of the metrics of a simulator log.

  A simulator log reports under a few names and under two families of names.
  None of them is the name of a derived column, so that what is derived never
  takes the place of what is reported.

  * `LogName` are the names under which a simulator log can report;
  * `logName_of_mem_names_read`: it reports under no other;
  * `LogName.notMem_derivedNames`: none of them is that of a derived column.
-/
import PolicyBench.Proofs.SimLog.Metrics
import PolicyBench.Table.Runs

namespace PolicyBench.SimLog

open PolicyBench.Text

/-- A name under which a simulator log can report. -/
inductive LogName : String → Prop where
  | cycles : LogName "total_cycles"
  | conflicts : LogName "total_conflicts"
  | cache {word : List Char} (hne : word ≠ []) (hword : ∀ c ∈ word, isWord c = true) :
      LogName ("kv_" ++ String.ofList word)
  | bank {word : List Char} (hne : word ≠ []) (hword : ∀ c ∈ word, isWord c = true) :
      LogName ("conflict_" ++ String.ofList word)

theorem logName_of_mem_scalars {scalar : Scalar} (h : scalar ∈ scalars) : LogName scalar.name := by
  simp only [scalars, List.mem_cons, List.not_mem_nil, or_false] at h
  rcases h with rfl | rfl
  · exact .cycles
  · exact .conflicts

theorem logName_metricName {block : Block} (h : block ∈ blocks) {word : List Char}
    (hne : word ≠ []) (hword : ∀ c ∈ word, isWord c = true) :
    LogName (block.metricName word) := by
  simp only [blocks, List.mem_cons, List.not_mem_nil, or_false] at h
  rcases h with rfl | rfl
  · exact .cache hne hword
  · exact .bank hne hword

/-- **A simulator log reports under no other name.** -/
theorem logName_of_mem_names_read {text name : String} (h : name ∈ (read text).value.names) :
    LogName name := by
  rw [NameMap.mem_names_iff, get?_read, Option.isSome_or, Bool.or_eq_true, Option.isSome_iff_exists,
    Option.isSome_iff_exists] at h
  rcases h with ⟨n, hn⟩ | ⟨n, hn⟩
  · obtain ⟨scalar, hscalar, hvalue⟩ := List.exists_of_findSome?_eq_some hn
    split at hvalue
    · next hname => exact hname ▸ logName_of_mem_scalars (List.mem_reverse.1 hscalar)
    · cases hvalue
  · obtain ⟨block, hblock, hvalue⟩ := List.exists_of_findSome?_eq_some hn
    obtain ⟨word, hne, hword, rfl⟩ :=
      Block.eq_metricName_of_value? (Option.ne_none_iff_exists'.2 ⟨n, hvalue⟩)
    exact logName_metricName hblock hne hword

/-- **No metric of a log has the name of a derived column.** -/
theorem LogName.notMem_derivedNames {name : String} (h : LogName name) : name ∉ derivedNames := by
  -- the derived names start with another letter than the families
  have hhead : ∀ derived ∈ derivedNames, derived.toList.head? = some 't' := by decide
  intro hmem
  have hname := hhead name hmem
  cases h with
  | cycles => exact absurd hmem (by decide)
  | conflicts => exact absurd hmem (by decide)
  | cache => simp at hname
  | bank => simp at hname

end PolicyBench.SimLog
