/-
  PolicyBench — rounding to the nearest number.

  The exact result of an operation is a quotient of whole numbers of units.
  It is rounded to the nearest number of the format; halfway between two, to
  the one with the even significand; beyond the largest, to infinity.

  * `roundHalfEven num den` is the integer nearest to `num / den`, ties to even;
  * `roundUnits num den` rounds on the grid that the format has near `num / den`:
    53 significant bits, and no finer than one unit;
  * `roundUnits_eq_mul`: the result is a significand of 53 bits times a power of
    two, so it is representable unless it is too large;
  * `roundUnits_of_small`, `two_pow_le_roundUnits`: what is below half a unit
    vanishes, and a power of two is not crossed downwards;
  * `ofRatio` is the number so obtained.
-/
import PolicyBench.Binary64.Basic

namespace PolicyBench

-- `2 ^ n` is the core library's power, also where another one is in scope.
attribute [local instance (high)] instPowNat

namespace Binary64

/-- The integer nearest to `num / den`; of two equally near, the even one. -/
def roundHalfEven (num den : Nat) : Nat :=
  let below := num / den
  let rest := num % den
  if 2 * rest < den ∨ (2 * rest = den ∧ below % 2 = 0) then below else below + 1

theorem roundHalfEven_le (num den : Nat) : roundHalfEven num den ≤ num / den + 1 := by
  unfold roundHalfEven; grind

theorem le_roundHalfEven (num den : Nat) : num / den ≤ roundHalfEven num den := by
  unfold roundHalfEven; grind

/-- The exponent of the spacing between the numbers around `n` units. -/
def spacing (n : Nat) : Nat := n.log2 - 52

theorem div_two_pow_spacing_lt (n : Nat) : n / 2 ^ spacing n < 2 ^ (53 : Nat) := by
  rw [Nat.div_lt_iff_lt_mul (Nat.two_pow_pos _), ← Nat.pow_add]
  exact Nat.lt_of_lt_of_le Nat.lt_log2_self
    (Nat.pow_le_pow_right (by decide) (by unfold spacing; omega))

/-- `num / den` units, rounded to a magnitude with 53 significant bits. -/
def roundUnits (num den : Nat) : Nat :=
  let k := spacing (num / den)
  roundHalfEven num (den * 2 ^ k) * 2 ^ k

theorem roundHalfEven_spacing_le (num den : Nat) :
    roundHalfEven num (den * 2 ^ spacing (num / den)) ≤ 2 ^ (53 : Nat) := by
  refine Nat.le_trans (roundHalfEven_le _ _) ?_
  rw [← Nat.div_div_eq_div_mul]
  exact div_two_pow_spacing_lt _

theorem roundUnits_eq_mul (num den : Nat) :
    ∃ significand exponent : Nat, significand < 2 ^ (53 : Nat) ∧
      roundUnits num den = significand * 2 ^ exponent := by
  rcases Nat.lt_or_eq_of_le (roundHalfEven_spacing_le num den) with hlt | heq
  · exact ⟨_, _, hlt, rfl⟩
  · refine ⟨1, 53 + spacing (num / den), by decide, ?_⟩
    simp only [roundUnits, heq, Nat.one_mul]
    exact (Nat.pow_add 2 53 _).symm

/-- Less than half a unit is rounded to nothing. -/
theorem roundUnits_of_small {num den : Nat} (h : 2 * num < den) : roundUnits num den = 0 := by
  have hq : num / den = 0 := Nat.div_eq_of_lt (by omega)
  have hs : spacing 0 = 0 := by simp [spacing]
  have hm : num % den = num := Nat.mod_eq_of_lt (by omega)
  simp [roundUnits, roundHalfEven, hq, hs, hm, h]

/-- Rounding does not lead below a power of two. -/
theorem two_pow_le_roundUnits {num den k : Nat} (hk : 52 ≤ k) (h : 2 ^ k ≤ num / den) :
    2 ^ k ≤ roundUnits num den := by
  have hlog : k ≤ (num / den).log2 :=
    (Nat.le_log2 (by have := Nat.two_pow_pos k; omega)).2 h
  have hs : spacing (num / den) + 52 = (num / den).log2 := by unfold spacing; omega
  have hsig : 2 ^ (52 : Nat) ≤ num / (den * 2 ^ spacing (num / den)) := by
    rw [← Nat.div_div_eq_div_mul, Nat.le_div_iff_mul_le (Nat.two_pow_pos _), ← Nat.pow_add,
      Nat.add_comm, hs]
    exact Nat.log2_self_le (by have := Nat.two_pow_pos k; omega)
  calc 2 ^ k ≤ 2 ^ (52 + spacing (num / den)) := Nat.pow_le_pow_right (by decide) (by omega)
    _ = 2 ^ (52 : Nat) * 2 ^ spacing (num / den) := Nat.pow_add ..
    _ ≤ _ := Nat.mul_le_mul_right _ (Nat.le_trans hsig (le_roundHalfEven _ _))

/-- `num / den` units with the given sign, rounded. -/
def ofRatio (negative : Bool) (num den : Nat) : Binary64 :=
  if h : roundUnits num den < overflowUnits then
    finite negative (roundUnits num den) ⟨h, roundUnits_eq_mul num den⟩
  else infinite negative

theorem ofRatio_of_small {negative : Bool} {num den : Nat} (h : 2 * num < den) :
    ofRatio negative num den = zero negative := by
  have hz : 0 < overflowUnits := two_pow_le_overflowUnits (Nat.zero_le _)
  simp [ofRatio, zero, roundUnits_of_small h, hz]

theorem ofRatio_of_large {negative : Bool} {num den : Nat} (h : overflowUnits ≤ num / den) :
    ofRatio negative num den = infinite negative := by
  have hle : overflowUnits ≤ roundUnits num den := by
    generalize hk : 2098 = k
    have he : overflowUnits = 2 ^ k := by rw [← hk, overflowUnits]
    rw [he] at h ⊢
    exact two_pow_le_roundUnits (by omega) h
  simp [ofRatio, Nat.not_lt.2 hle]

end Binary64

end PolicyBench
