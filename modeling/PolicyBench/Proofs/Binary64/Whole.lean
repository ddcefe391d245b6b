/-
  PolicyBench — whole numbers in the format.

  A whole number below 2^64 becomes a finite number of the format, again a whole one.
  Below 2^53 nothing is lost; from there on neighbours may become the same number, but
  the order is never reversed.

  * `wholeUnits`: the units of the number nearest to a whole number;
  * `wholeUnits_mono`, `wholeUnits_of_le`: order and exactness;
  * `wholeUnits_lt_iff`: a number below 2^53 is told from every other one;
  * `unitsOfOne_dvd_wholeUnits`: the number is a whole one;
  * `ofNat_eq_wholeUnits`: so far the format reaches.
-/
import PolicyBench.Proofs.Binary64.Signed

namespace PolicyBench.Binary64

-- `2 ^ n` is the core library's power, also where another one is in scope.
attribute [local instance (high)] instPowNat

/-- The units of the number nearest to `n`. -/
def wholeUnits (n : Nat) : Nat := roundUnits (n * unitsOfOne) 1

theorem representable_shifted {m k : Nat} (hm : m < 2 ^ (53 : Nat)) (hk : k ≤ 971) :
    Representable (m * 2 ^ k * unitsOfOne) := by
  obtain ⟨u, hu, hle⟩ : ∃ u, unitsOfOne = 2 ^ u ∧ u ≤ 1074 := ⟨1074, rfl, Nat.le_refl _⟩
  rw [hu, Nat.mul_assoc, ← Nat.pow_add]
  exact representable_of_fields hm (by omega)

/-- Also 2^53 itself is a number of the format. -/
theorem representable_of_le {n : Nat} (h : n ≤ 2 ^ (53 : Nat)) :
    Representable (n * unitsOfOne) := by
  rcases Nat.lt_or_eq_of_le h with hlt | rfl
  · exact representable_mul_unitsOfOne hlt
  · simpa only [Nat.one_mul] using representable_shifted (m := 1) (k := 53) (by decide) (by decide)

theorem representable_two_pow_64 : Representable (2 ^ (64 : Nat) * unitsOfOne) := by
  simpa only [Nat.one_mul] using representable_shifted (m := 1) (k := 64) (by decide) (by decide)

theorem two_pow_64_le_unitsOfOne : 2 ^ (64 : Nat) ≤ unitsOfOne := by
  obtain ⟨u, hu, hle⟩ : ∃ u, unitsOfOne = 2 ^ u ∧ 64 ≤ u := ⟨1074, rfl, by decide⟩
  rw [hu]
  exact Nat.pow_le_pow_right (by decide) hle

theorem wholeUnits_mono {m n : Nat} (h : m ≤ n) : wholeUnits m ≤ wholeUnits n :=
  roundUnits_mono Nat.one_pos Nat.one_pos
    (Nat.mul_le_mul_right 1 (Nat.mul_le_mul_right unitsOfOne h))

theorem wholeUnits_of_representable {n : Nat} (h : Representable (n * unitsOfOne)) :
    wholeUnits n = n * unitsOfOne := by
  have hround := roundUnits_representable h Nat.one_pos
  rwa [Nat.mul_one] at hround

/-- Up to 2^53 nothing is lost. -/
theorem wholeUnits_of_le {n : Nat} (h : n ≤ 2 ^ (53 : Nat)) : wholeUnits n = n * unitsOfOne :=
  wholeUnits_of_representable (representable_of_le h)

theorem wholeUnits_le {n : Nat} (h : n ≤ 2 ^ (64 : Nat)) :
    wholeUnits n ≤ 2 ^ (64 : Nat) * unitsOfOne := by
  rw [← wholeUnits_of_representable representable_two_pow_64]
  exact wholeUnits_mono h

theorem unitsOfOne_le_wholeUnits {n : Nat} (h : n ≠ 0) : unitsOfOne ≤ wholeUnits n := by
  have hone : wholeUnits 1 = unitsOfOne := by
    rw [wholeUnits_of_le (by decide), Nat.one_mul]
  rw [← hone]
  exact wholeUnits_mono (Nat.pos_of_ne_zero h)

/-- A number below 2^53 is told from every other one. -/
theorem wholeUnits_lt_iff {m n : Nat} (h : m < 2 ^ (53 : Nat) ∨ n < 2 ^ (53 : Nat)) :
    wholeUnits m < wholeUnits n ↔ m < n := by
  refine ⟨fun hlt => Nat.lt_of_not_le fun hle => Nat.not_le.2 hlt (wholeUnits_mono hle),
    fun hlt => ?_⟩
  have hm : m < 2 ^ (53 : Nat) := h.elim id (Nat.lt_trans hlt)
  calc wholeUnits m = m * unitsOfOne := wholeUnits_of_le (Nat.le_of_lt hm)
    _ < (m + 1) * unitsOfOne := Nat.mul_lt_mul_of_pos_right (Nat.lt_succ_self m) unitsOfOne_pos
    _ = wholeUnits (m + 1) := (wholeUnits_of_le hm).symm
    _ ≤ wholeUnits n := wholeUnits_mono hlt

/-- From 2^53 on the numbers of the format are whole anyway. -/
theorem unitsOfOne_dvd_wholeUnits (n : Nat) : unitsOfOne ∣ wholeUnits n := by
  rcases Nat.le_total n (2 ^ (53 : Nat)) with hle | hge
  · rw [wholeUnits_of_le hle]
    exact Nat.dvd_mul_left ..
  · obtain ⟨u, hu⟩ : ∃ u, unitsOfOne = 2 ^ u := ⟨1074, rfl⟩
    have hlog : 53 + u ≤ (n * 2 ^ u).log2 := by
      refine (Nat.le_log2 ?_).2 ?_
      · exact Nat.mul_ne_zero (by omega) (Nat.ne_of_gt (Nat.two_pow_pos u))
      · rw [Nat.pow_add]
        exact Nat.mul_le_mul_right _ hge
    rw [wholeUnits, roundUnits, Nat.div_one, hu]
    exact Nat.dvd_trans (Nat.pow_dvd_pow 2 (by unfold spacing; omega)) (Nat.dvd_mul_left _ _)

/-- A whole number below 2^64 becomes a finite number. -/
theorem ofNat_eq_wholeUnits {n : Nat} (h : n ≤ 2 ^ (64 : Nat)) :
    ∃ hr, ofNat n = finite false (wholeUnits n) hr := by
  have hlt : roundUnits (n * unitsOfOne) 1 < overflowUnits :=
    Nat.lt_of_le_of_lt (wholeUnits_le h) representable_two_pow_64.1
  rw [ofNat, ofRatio, dif_pos hlt]
  exact ⟨_, rfl⟩

/-- Whole numbers become the same number exactly if they have the same units. -/
theorem ofNat_inj_iff {m n : Nat} (hm : m ≤ 2 ^ (64 : Nat)) (hn : n ≤ 2 ^ (64 : Nat)) :
    ofNat m = ofNat n ↔ wholeUnits m = wholeUnits n := by
  obtain ⟨hrm, hm⟩ := ofNat_eq_wholeUnits hm
  obtain ⟨hrn, hn⟩ := ofNat_eq_wholeUnits hn
  rw [hm, hn, finite.injEq, and_iff_right rfl]

theorem value?_ofNat {n : Nat} (h : n ≤ 2 ^ (64 : Nat)) :
    (ofNat n).value? = some (wholeUnits n : Int) := by
  obtain ⟨hr, hn⟩ := ofNat_eq_wholeUnits h
  rw [hn]
  rfl

end PolicyBench.Binary64
