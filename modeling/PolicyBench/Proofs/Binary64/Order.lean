/-
  PolicyBench — rounding keeps the order.

  Of two quotients the greater one is never rounded to the smaller number.  So a
  quotient cannot leave the range of the format by being rounded as long as a
  number of the format bounds it, and a finite number that is divided by one or
  more stays finite.

  * `roundHalfEven_le_iff`: which quotients are rounded to `m` or less;
  * `roundUnits_mono`: rounding to the numbers of the format keeps the order;
  * `roundUnits_le`, `le_roundUnits`: a bound of the format bounds what is rounded, too;
  * `ofNat_eq_finite`: whole numbers of 53 bits are numbers of the format;
  * `isZero_ofNat_of_ne_zero`: only zero becomes zero;
  * `isFinite_div`: dividing by one or more keeps a number finite.
-/
import PolicyBench.Binary64.Arithmetic
import PolicyBench.Proofs.Binary64.Exact

namespace PolicyBench

-- `2 ^ n` is the core library's power, also where another one is in scope.
attribute [local instance (high)] instPowNat

namespace Binary64

/-! ## Nearest integers -/

/-- A quotient is rounded to `m` or less exactly if it is below `m + 1/2`, or equal
    to it and `m` is even. -/
theorem roundHalfEven_le_iff {num den m : Nat} (hd : 0 < den) :
    roundHalfEven num den ≤ m ↔
      2 * num < (2 * m + 1) * den ∨ (2 * num = (2 * m + 1) * den ∧ m % 2 = 0) := by
  have hnum := Nat.div_add_mod num den
  have hrest := Nat.mod_lt num hd
  have hhalf : (2 * m + 1) * den = 2 * (den * m) + den := by
    rw [Nat.add_mul, Nat.one_mul, Nat.mul_assoc, Nat.mul_comm m]
  unfold roundHalfEven
  rcases Nat.lt_trichotomy (num / den) m with hlt | rfl | hgt
  · have hle : den * (num / den) + den ≤ den * m := Nat.mul_le_mul_left den hlt
    grind
  · grind
  · have hle : den * m + den ≤ den * (num / den) := Nat.mul_le_mul_left den hgt
    grind

theorem roundHalfEven_mono {num den num' den' : Nat} (hd : 0 < den) (hd' : 0 < den')
    (h : num * den' ≤ num' * den) : roundHalfEven num den ≤ roundHalfEven num' den' := by
  generalize hm : roundHalfEven num' den' = m
  have hbound := (roundHalfEven_le_iff hd').1 (Nat.le_of_eq hm)
  have hle : 2 * num * den' ≤ 2 * num' * den := by
    rw [Nat.mul_assoc, Nat.mul_assoc]
    exact Nat.mul_le_mul_left 2 h
  have hswap : (2 * m + 1) * den' * den = (2 * m + 1) * den * den' := Nat.mul_right_comm ..
  rw [roundHalfEven_le_iff hd]
  rcases hbound with hlt | ⟨heq, heven⟩
  · refine .inl (Nat.lt_of_mul_lt_mul_right (a := den') ?_)
    rw [← hswap]
    exact Nat.lt_of_le_of_lt hle (Nat.mul_lt_mul_of_pos_right hlt hd)
  · rw [heq, hswap] at hle
    rcases Nat.lt_or_eq_of_le (Nat.le_of_mul_le_mul_right hle hd') with hlt | heq
    · exact .inl hlt
    · exact .inr ⟨heq, heven⟩

/-! ## Numbers of the format -/

theorem spacing_mono {m n : Nat} (h : m ≤ n) : spacing m ≤ spacing n := by
  rcases Nat.eq_zero_or_pos m with rfl | hpos
  · simp [spacing]
  · have hlog : m.log2 ≤ n.log2 :=
      (Nat.le_log2 (by omega)).2 (Nat.le_trans (Nat.log2_self_le (by omega)) h)
    unfold spacing
    omega

theorem roundUnits_le_two_pow (num den : Nat) :
    roundUnits num den ≤ 2 ^ (53 + spacing (num / den)) := by
  rw [Nat.pow_add]
  exact Nat.mul_le_mul_right _ (roundHalfEven_spacing_le num den)

/-- Where the numbers are further than one unit apart they have all 53 bits. -/
theorem two_pow_spacing_le_roundUnits {num den : Nat} (h : 0 < spacing (num / den)) :
    2 ^ (52 + spacing (num / den)) ≤ roundUnits num den := by
  refine two_pow_le_roundUnits (Nat.le_add_right ..) ?_
  have hlog : 52 + spacing (num / den) = (num / den).log2 := by
    unfold spacing at h ⊢
    omega
  rw [hlog]
  refine Nat.log2_self_le fun hzero => ?_
  simp [spacing, hzero] at h

theorem div_le_div_of_mul_le {num den num' den' : Nat} (hd : 0 < den) (hd' : 0 < den')
    (h : num * den' ≤ num' * den) : num / den ≤ num' / den' := by
  rw [Nat.le_div_iff_mul_le hd']
  refine Nat.le_of_mul_le_mul_right ?_ hd
  calc num / den * den' * den = num / den * den * den' := Nat.mul_right_comm ..
    _ ≤ num * den' := Nat.mul_le_mul_right den' (Nat.div_mul_le_self num den)
    _ ≤ num' * den := h

/-- **The greater of two quotients is rounded to the greater magnitude.** -/
theorem roundUnits_mono {num den num' den' : Nat} (hd : 0 < den) (hd' : 0 < den')
    (h : num * den' ≤ num' * den) : roundUnits num den ≤ roundUnits num' den' := by
  rcases Nat.lt_or_eq_of_le (spacing_mono (div_le_div_of_mul_le hd hd' h)) with hlt | heq
  · -- the two are rounded on different grids: a power of two lies between them
    calc roundUnits num den ≤ 2 ^ (53 + spacing (num / den)) := roundUnits_le_two_pow ..
      _ ≤ 2 ^ (52 + spacing (num' / den')) := Nat.pow_le_pow_right (by decide) (by omega)
      _ ≤ roundUnits num' den' := two_pow_spacing_le_roundUnits (by omega)
  · unfold roundUnits
    dsimp only
    rw [heq]
    refine Nat.mul_le_mul_right _ (roundHalfEven_mono ?_ ?_ ?_)
    · exact Nat.mul_pos hd (Nat.two_pow_pos _)
    · exact Nat.mul_pos hd' (Nat.two_pow_pos _)
    · rw [← Nat.mul_assoc, ← Nat.mul_assoc]
      exact Nat.mul_le_mul_right _ h

/-- A bound that is a magnitude of the format bounds what is rounded, too. -/
theorem roundUnits_le {num den n : Nat} (hd : 0 < den) (hn : Representable n)
    (h : num ≤ n * den) : roundUnits num den ≤ n := by
  have hmono := roundUnits_mono hd hd (Nat.mul_le_mul_right den h)
  rwa [roundUnits_representable hn hd] at hmono

/-- So does a bound from below. -/
theorem le_roundUnits {num den n : Nat} (hd : 0 < den) (hn : Representable n)
    (h : n * den ≤ num) : n ≤ roundUnits num den := by
  have hmono := roundUnits_mono hd hd (Nat.mul_le_mul_right den h)
  rwa [roundUnits_representable hn hd] at hmono

/-! ## Whole numbers, and division -/

theorem representable_mul_unitsOfOne {n : Nat} (h : n < 2 ^ (53 : Nat)) :
    Representable (n * unitsOfOne) := by
  obtain ⟨k, hk, hle⟩ : ∃ k, unitsOfOne = 2 ^ k ∧ k ≤ 2045 := ⟨1074, rfl, by decide⟩
  rw [hk]
  exact representable_of_fields h hle

theorem representable_unitsOfOne : Representable unitsOfOne :=
  Nat.one_mul unitsOfOne ▸ representable_mul_unitsOfOne (by decide : (1 : Nat) < 2 ^ (53 : Nat))

/-- Whole numbers of 53 bits are numbers of the format. -/
theorem ofNat_eq_finite {n : Nat} (h : n < 2 ^ (53 : Nat)) :
    ofNat n = finite false (n * unitsOfOne) (representable_mul_unitsOfOne h) := by
  have hround := ofRatio_representable false (representable_mul_unitsOfOne h) Nat.one_pos
  rwa [Nat.mul_one] at hround

/-- A whole number other than zero is not rounded to zero. -/
theorem isZero_ofNat_of_ne_zero {n : Nat} (h : n ≠ 0) : (ofNat n).isZero = false := by
  have hround : unitsOfOne ≤ roundUnits (n * unitsOfOne) 1 := by
    refine le_roundUnits Nat.one_pos representable_unitsOfOne ?_
    rw [Nat.mul_one]
    exact Nat.le_mul_of_pos_left _ (Nat.pos_of_ne_zero h)
  unfold ofNat ofRatio
  split
  · refine beq_eq_false_iff_ne.2 ?_
    exact Nat.ne_of_gt (Nat.lt_of_lt_of_le unitsOfOne_pos hround)
  · rfl

/-- **Divided by one or more, a finite number stays finite.** -/
theorem isFinite_div {x : Binary64} (hx : x.isFinite = true) {negative : Bool} {n : Nat}
    {hn : Representable n} (hone : unitsOfOne ≤ n) :
    (x / finite negative n hn).isFinite = true := by
  cases x with
  | nan => cases hx
  | infinite => cases hx
  | finite s m hm =>
    have hpos : 0 < n := Nat.lt_of_lt_of_le unitsOfOne_pos hone
    have hle : roundUnits (m * unitsOfOne) n ≤ m :=
      roundUnits_le hpos hm (Nat.mul_le_mul_left m hone)
    change (div (finite s m hm) (finite negative n hn)).isFinite = true
    rw [div, if_neg (Nat.ne_of_gt hpos), ofRatio, dif_pos (Nat.lt_of_le_of_lt hle hm.1)]
    rfl

end Binary64

end PolicyBench
