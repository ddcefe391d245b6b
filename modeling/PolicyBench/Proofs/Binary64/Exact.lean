/-
  PolicyBench — numbers that rounding leaves alone.

  Rounding depends on the value of a quotient alone, not on how it is written,
  and it changes no number that the format has.  So a decimal may be scaled, and
  the decimal that is chosen to show a number reads back as that number.

  * `roundUnits_congr`: equal quotients are rounded alike;
  * `roundUnits_representable`: a magnitude of the format is its own rounding;
  * `Decimal.round_scale`, `Decimal.round_trim`: zeros at the end of a significand
    can be traded for the exponent;
  * `shortest_denotes`: the decimal chosen for a magnitude denotes it.
-/
import PolicyBench.Binary64.Shortest

namespace PolicyBench

-- `2 ^ n` is the core library's power, also where another one is in scope.
attribute [local instance (high)] instPowNat

namespace Binary64

/-! ## Rounding a quotient -/

theorem roundHalfEven_mul_left {k : Nat} (hk : 0 < k) (num den : Nat) :
    roundHalfEven (k * num) (k * den) = roundHalfEven num den := by
  have hlt : 2 * (k * (num % den)) < k * den ↔ 2 * (num % den) < den := by
    rw [Nat.mul_left_comm]; exact Nat.mul_lt_mul_left hk
  have heq : 2 * (k * (num % den)) = k * den ↔ 2 * (num % den) = den := by
    rw [Nat.mul_left_comm]; exact Nat.mul_right_inj (by omega)
  unfold roundHalfEven
  simp only [Nat.mul_div_mul_left num den hk, Nat.mul_mod_mul_left, hlt, heq]

theorem roundUnits_mul_left {k : Nat} (hk : 0 < k) (num den : Nat) :
    roundUnits (k * num) (k * den) = roundUnits num den := by
  unfold roundUnits
  simp only [Nat.mul_div_mul_left num den hk, Nat.mul_assoc k den, roundHalfEven_mul_left hk]

/-- Equal quotients are rounded alike. -/
theorem roundUnits_congr {num den num' den' : Nat} (hd : 0 < den) (hd' : 0 < den')
    (h : num * den' = num' * den) : roundUnits num den = roundUnits num' den' := by
  rw [← roundUnits_mul_left hd' num den, Nat.mul_comm den' num, h, Nat.mul_comm num' den,
    Nat.mul_comm den' den, roundUnits_mul_left hd]

theorem ofRatio_congr (negative : Bool) {num den num' den' : Nat} (hd : 0 < den) (hd' : 0 < den')
    (h : num * den' = num' * den) : ofRatio negative num den = ofRatio negative num' den' := by
  simp only [ofRatio, roundUnits_congr hd hd' h]

/-! ## Magnitudes of the format -/

/-- Around a magnitude of the format the numbers are spaced so that it is one of
    them. -/
theorem two_pow_spacing_dvd {significand : Nat} (h : significand < 2 ^ (53 : Nat))
    (exponent : Nat) :
    2 ^ spacing (significand * 2 ^ exponent) ∣ significand * 2 ^ exponent := by
  rcases Nat.eq_zero_or_pos significand with rfl | hpos
  · simp
  refine Nat.dvd_trans (Nat.pow_dvd_pow 2 ?_) (Nat.dvd_mul_left _ _)
  have hne : significand * 2 ^ exponent ≠ 0 :=
    Nat.mul_ne_zero (by omega) (Nat.ne_of_gt (Nat.two_pow_pos _))
  have hlt : significand * 2 ^ exponent < 2 ^ (53 + exponent) := by
    rw [Nat.pow_add]
    exact Nat.mul_lt_mul_of_pos_right h (Nat.two_pow_pos _)
  have hlog := (Nat.log2_lt hne).2 hlt
  unfold spacing
  omega

/-- A magnitude of the format is its own rounding. -/
theorem roundUnits_representable {n : Nat} (h : Representable n) {den : Nat} (hd : 0 < den) :
    roundUnits (n * den) den = n := by
  obtain ⟨-, significand, exponent, hs, rfl⟩ := h
  have hdvd := two_pow_spacing_dvd hs exponent
  generalize significand * 2 ^ exponent = n at hdvd ⊢
  have hone : roundUnits (n * den) den = roundUnits n 1 :=
    roundUnits_congr hd Nat.one_pos (by rw [Nat.mul_one])
  have hexact : roundHalfEven n (2 ^ spacing n) = n / 2 ^ spacing n := by
    unfold roundHalfEven
    dsimp only
    rw [Nat.mod_eq_zero_of_dvd hdvd, Nat.mul_zero]
    exact if_pos (.inl (Nat.two_pow_pos _))
  rw [hone, roundUnits, Nat.div_one, Nat.one_mul, hexact, Nat.div_mul_cancel hdvd]

theorem ofRatio_of_roundUnits (negative : Bool) {num den n : Nat} (hn : roundUnits num den = n)
    (h : Representable n) : ofRatio negative num den = finite negative n h := by
  subst hn
  simp [ofRatio, h.1]

theorem roundUnits_of_ofRatio {negative negative' : Bool} {num den n : Nat} {h : Representable n}
    (hn : ofRatio negative num den = finite negative' n h) : roundUnits num den = n := by
  unfold ofRatio at hn
  split at hn
  · cases hn; rfl
  · cases hn

theorem ofRatio_representable (negative : Bool) {n : Nat} (h : Representable n) {den : Nat}
    (hd : 0 < den) : ofRatio negative (n * den) den = finite negative n h :=
  ofRatio_of_roundUnits negative (roundUnits_representable h hd) h

end Binary64

/-! ## Decimals -/

namespace Decimal

theorem denominator_pos (d : Decimal) : 0 < d.denominator := Nat.pow_pos (by decide)

/-- Decimals of one value are rounded alike. -/
theorem round_congr (negative : Bool) {d d' : Decimal}
    (h : d.numerator * d'.denominator = d'.numerator * d.denominator) :
    d.round negative = d'.round negative := by
  rw [round_eq_ofRatio, round_eq_ofRatio]
  exact Binary64.ofRatio_congr negative d.denominator_pos d'.denominator_pos h

/-- Zeros at the end of the significand can be traded for the exponent. -/
theorem round_scale (negative : Bool) (significand k : Nat) (exponent : Int) :
    round negative ⟨significand * 10 ^ k, exponent⟩ =
      round negative ⟨significand, exponent + k⟩ := by
  apply round_congr
  have hexp : k + exponent.toNat + (-(exponent + k)).toNat =
      (exponent + k).toNat + (-exponent).toNat := by omega
  simp only [numerator, denominator]
  generalize unitsOfOne = one
  calc significand * 10 ^ k * 10 ^ exponent.toNat * one * 10 ^ (-(exponent + k)).toNat
      = significand * 10 ^ (k + exponent.toNat + (-(exponent + k)).toNat) * one := by
        simp only [Nat.pow_add]; ac_rfl
    _ = significand * 10 ^ (exponent + k).toNat * one * 10 ^ (-exponent).toNat := by
        rw [hexp, Nat.pow_add]; ac_rfl

theorem round_trim (negative : Bool) (d : Decimal) : d.trim.round negative = d.round negative := by
  fun_induction trim d with
  | case1 d h ih =>
    have hs : d.significand / 10 * 10 ^ (1 : Nat) = d.significand := by
      rw [Nat.pow_one]; omega
    rw [ih, ← Int.natCast_one, ← round_scale, hs]
  | case2 => rfl

theorem round_of_denotes {d : Decimal} {units : Nat} (h : d.Denotes units) (negative : Bool)
    (hr : Representable units) : d.round negative = .finite negative units hr := by
  unfold Denotes at h
  cases hd : d.round false with
  | nan => simp [hd] at h
  | infinite => simp [hd] at h
  | finite _ n _ =>
    simp only [hd] at h
    subst h
    rw [round_eq_ofRatio] at hd ⊢
    exact Binary64.ofRatio_of_roundUnits negative (Binary64.roundUnits_of_ofRatio hd) hr

/-- A magnitude of `2 ^ (-k)` in each unit, written out exactly. -/
theorem round_exact (negative : Bool) {units k : Nat} (hk : unitsOfOne = 2 ^ k)
    (h : Representable units) :
    round negative ⟨units * 5 ^ k, -(k : Int)⟩ = .finite negative units h := by
  have hvalue : numerator ⟨units * 5 ^ k, -(k : Int)⟩ =
      units * denominator ⟨units * 5 ^ k, -(k : Int)⟩ := by
    simp only [numerator, denominator, hk, Int.neg_neg, Int.toNat_natCast, Int.toNat_neg_natCast,
      Nat.pow_zero, Nat.mul_one]
    rw [Nat.mul_assoc, ← Nat.mul_pow]
  rw [round_eq_ofRatio, hvalue, Binary64.ofRatio_representable negative h (denominator_pos _)]

theorem denotes_of_round {d : Decimal} {units : Nat} {h : Representable units}
    (hd : d.round false = .finite false units h) : d.Denotes units := by
  unfold Denotes
  rw [hd]

end Decimal

namespace Binary64

/-- **The decimal chosen for a magnitude denotes it.** -/
theorem shortest_denotes (tie : Tie) {units : Nat} (h : Representable units) :
    (shortest tie units).Denotes units := by
  unfold shortest
  split
  · next hz =>
    subst hz
    exact Decimal.denotes_of_round (h := h) (by simp [Decimal.round, zero])
  · dsimp only
    generalize hf : List.findSome? _ (List.range 17) = found
    cases found with
    | some d =>
      obtain ⟨i, -, hi⟩ := List.exists_of_findSome?_eq_some hf
      exact gridCandidate?_denotes hi
    | none =>
      refine Decimal.denotes_of_round (h := h) ?_
      rw [Option.getD_none, Decimal.round_trim]
      exact Decimal.round_exact false rfl h

/-- Read back, the decimal chosen for a magnitude is the number itself. -/
theorem round_shortest (tie : Tie) (negative : Bool) {units : Nat} (h : Representable units) :
    (shortest tie units).round negative = finite negative units h :=
  Decimal.round_of_denotes (shortest_denotes tie h) negative h

end Binary64

end PolicyBench
