/-
  PolicyBench — numbers beyond the range.

  The numbers of the format end at a power of two.  What is less than half-way
  between it and the last number before it is rounded down to that number; from
  half-way on a number is rounded to an infinity.

  * `lastMidpoint`: half-way between a power of two and the last number of 53 bits
    before it; `two_pow_le_roundUnits_iff`: from there on it is reached by rounding;
  * `ofRatio_eq_infinite_iff`: which quotients are rounded to an infinity;
  * `Decimal.TooLarge`: the same for decimals; `ofText?_eq_infinite_iff`: which
    texts are read as an infinity.
-/
import PolicyBench.Binary64.Decimal
import PolicyBench.Proofs.Binary64.Order

namespace PolicyBench

-- `2 ^ n` is the core library's power, also where another one is in scope.
attribute [local instance (high)] instPowNat

namespace Binary64

/-! ## Half-way to a power of two -/

/-- The greatest significand of 53 bits. -/
def maxSignificand : Nat := 2 ^ (53 : Nat) - 1

/-- Half-way between the last number with exponent `e + 1` and the power of two behind
    it. -/
def lastMidpoint (e : Nat) : Nat := (2 * maxSignificand + 1) * 2 ^ e

theorem lt_roundHalfEven_iff {num den m : Nat} (hd : 0 < den) (hodd : m % 2 = 1) :
    m < roundHalfEven num den ↔ (2 * m + 1) * den ≤ 2 * num := by
  rw [← Nat.not_le, roundHalfEven_le_iff hd]
  generalize (2 * m + 1) * den = midpoint
  omega

theorem spacing_lastMidpoint (e : Nat) : spacing (lastMidpoint e) = e + 1 := by
  have hpos : lastMidpoint e ≠ 0 :=
    Nat.ne_of_gt (Nat.mul_pos (by decide) (Nat.two_pow_pos e))
  have hlog : (lastMidpoint e).log2 = 53 + e := by
    rw [Nat.log2_eq_iff hpos, Nat.add_right_comm, Nat.pow_add, Nat.pow_add]
    exact ⟨Nat.mul_le_mul_right _ (by decide), Nat.mul_lt_mul_of_pos_right (by decide)
      (Nat.two_pow_pos e)⟩
  rw [spacing, hlog]
  omega

/-- On the grid before that power of two, the midpoint is rounded up. -/
theorem maxSignificand_lt_roundHalfEven_iff {num den e : Nat} (hd : 0 < den) :
    maxSignificand < roundHalfEven num (den * 2 ^ (e + 1)) ↔ lastMidpoint e * den ≤ num := by
  rw [lt_roundHalfEven_iff (Nat.mul_pos hd (Nat.two_pow_pos _)) (by decide), lastMidpoint]
  have hmidpoint : (2 * maxSignificand + 1) * (den * 2 ^ (e + 1)) =
      2 * ((2 * maxSignificand + 1) * 2 ^ e * den) := by
    rw [Nat.pow_succ]
    generalize 2 * maxSignificand + 1 = m
    generalize 2 ^ e = k
    grind
  rw [hmidpoint]
  exact Nat.mul_le_mul_left_iff (by decide)

/-- A quotient is rounded to that power of two or more exactly from the midpoint on. -/
theorem two_pow_le_roundUnits_iff {num den e : Nat} (hd : 0 < den) :
    2 ^ (54 + e) ≤ roundUnits num den ↔ lastMidpoint e * den ≤ num := by
  rcases Nat.lt_trichotomy (spacing (num / den)) (e + 1) with hlt | heq | hgt
  · refine iff_of_false (fun hle => ?_) (fun hle => ?_)
    · have hpow : 2 ^ (53 + spacing (num / den)) < 2 ^ (54 + e) :=
        Nat.pow_lt_pow_right (by decide) (by omega)
      exact Nat.not_le.2 hpow (Nat.le_trans hle (roundUnits_le_two_pow num den))
    · have hmono := spacing_mono ((Nat.le_div_iff_mul_le hd).2 hle)
      rw [spacing_lastMidpoint] at hmono
      omega
  · rw [← maxSignificand_lt_roundHalfEven_iff hd]
    have hpow : 2 ^ (54 + e) = (maxSignificand + 1) * 2 ^ (e + 1) := by
      rw [show 54 + e = 53 + (e + 1) by omega, Nat.pow_add]
      rfl
    rw [hpow]
    unfold roundUnits
    dsimp only
    rw [heq]
    exact Nat.mul_le_mul_right_iff (Nat.two_pow_pos _)
  · refine iff_of_true ?_ ?_
    · exact Nat.le_trans (Nat.pow_le_pow_right (by decide) (by omega))
        (two_pow_spacing_le_roundUnits (by omega))
    · refine Nat.le_of_not_lt fun hlt => ?_
      have hmono := spacing_mono (Nat.le_of_lt ((Nat.div_lt_iff_lt_mul hd).2 hlt))
      rw [spacing_lastMidpoint] at hmono
      omega

/-! ## The end of the range -/

/-- The least magnitude that is rounded out of the range, in units. -/
def overflowBound : Nat := lastMidpoint 2044

theorem overflowUnits_le_roundUnits_iff {num den : Nat} (hd : 0 < den) :
    overflowUnits ≤ roundUnits num den ↔ overflowBound * den ≤ num := by
  have hexponent : 2098 = 54 + 2044 := rfl
  rw [overflowBound, ← two_pow_le_roundUnits_iff hd, overflowUnits, hexponent]

/-- **A quotient is rounded to an infinity exactly from that bound on.** -/
theorem ofRatio_eq_infinite_iff {negative s : Bool} {num den : Nat} (hd : 0 < den) :
    ofRatio negative num den = infinite s ↔ s = negative ∧ overflowBound * den ≤ num := by
  rw [← overflowUnits_le_roundUnits_iff hd]
  unfold ofRatio
  split
  · next h => exact iff_of_false nofun fun hle => Nat.not_lt.2 hle.2 h
  · next h => simp [Nat.not_lt.1 h, eq_comm]

end Binary64

/-! ## Decimals -/

/-- The magnitude is rounded out of the range. -/
def Decimal.TooLarge (d : Decimal) : Prop :=
  Binary64.overflowBound * d.denominator ≤ d.numerator

theorem Decimal.round_eq_infinite_iff {negative s : Bool} {d : Decimal} :
    d.round negative = .infinite s ↔ s = negative ∧ d.TooLarge := by
  rw [round_eq_ofRatio, Binary64.ofRatio_eq_infinite_iff d.denominator_pos, TooLarge]

/-- **A text is read as an infinity exactly if it is a decimal that is too large.** -/
theorem Binary64.ofText?_eq_infinite_iff {cs : List Char} {s : Bool} :
    ofText? cs = some (infinite s) ↔ ∃ d, decimal? cs = some (s, d) ∧ d.TooLarge := by
  unfold ofText?
  rw [Option.map_eq_some_iff]
  constructor
  · rintro ⟨⟨negative, d⟩, hd, hround⟩
    obtain ⟨rfl, hlarge⟩ := Decimal.round_eq_infinite_iff.1 hround
    exact ⟨d, hd, hlarge⟩
  · rintro ⟨d, hd, hlarge⟩
    exact ⟨(s, d), hd, Decimal.round_eq_infinite_iff.2 ⟨rfl, hlarge⟩⟩

end PolicyBench
