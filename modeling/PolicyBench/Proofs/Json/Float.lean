/-
  PolicyBench — how floating-point numbers are written and read again.

  A finite number is written as a JSON number whose parts stand for the decimal that is
  chosen for it, with the zeros that its text has behind the point.  What that decimal is
  scaled to is read.

  * `NumberText.decimal`: the decimal that the parts of a number stand for;
    `NumberText.Stands.value`: its digits are all taken if there are few enough;
  * `asWritten`: the decimal with the zeros of its text; `spelled_writeDecimal`: the text
    is a JSON number that stands for it;
  * `rereadUnits`: the units of what is read; `isFloat_writeFloat`: it is read;
  * `dist_rereadUnits_le`: how far it is off from what was written;
  * `BrieflyWritten`, `rereadUnits_eq`: numbers with few digits come back as they were.
-/
import PolicyBench.Proofs.Json.Number
import PolicyBench.Proofs.Json.Scale

namespace PolicyBench.Json

-- `2 ^ n` is the core library's power, also where another one is in scope.
attribute [local instance (high)] instPowNat

open Binary64

/-! ## The value of the parts -/

/-- The value of an exponent; one that is not there counts as zero. -/
def exponentValue : Option (Bool × List Nat) → Int
  | none => 0
  | some (negative, digits) => if negative then -digitsValue digits else digitsValue digits

/-- The decimal that the parts of a number stand for, without its sign. -/
def NumberText.decimal (n : NumberText) : Decimal :=
  ⟨digitsValue (n.whole ++ n.fraction), exponentValue n.exponent - n.fraction.length⟩

/-- The number is complete, is no natural number, and stands for the decimal. -/
structure NumberText.Stands (n : NumberText) (d : Decimal) : Prop where
  complete : n.fault = none
  other : n.pointed = true ∨ n.exponent ≠ none
  decimal : n.decimal = d
  exponent : (exponentValue n.exponent).natAbs ≤ greatestExponent

theorem digitsValue_append (ds es : List Nat) :
    digitsValue (ds ++ es) = es.foldl (fun n d => n * 10 + d) (digitsValue ds) :=
  List.foldl_append

/-- Digits that fit into 64 bits are all taken. -/
theorem NumberText.Stands.value {n : NumberText} {d : Decimal} (h : n.Stands d)
    (hs : d.significand < 2 ^ (64 : Nat)) :
    n.value = .other <$> (withSign n.negative ·) <$> scale (.ofNat d.significand) d.exponent := by
  obtain ⟨hcomplete, hother, rfl, hexponent⟩ := h
  obtain ⟨negative, whole, fraction, pointed, exponent, fault⟩ := n
  subst hcomplete
  rw [NumberText.decimal] at hs ⊢
  dsimp only at hs hother hexponent ⊢
  rw [digitsValue_append] at hs ⊢
  have hwhole : digitsValue whole < 2 ^ (64 : Nat) := Nat.lt_of_le_of_lt (le_foldl_digits _ _) hs
  have hnot : ¬ (pointed = false ∧ exponent = none ∧ ([] : List Nat) = []) := by
    rintro ⟨rfl, rfl, -⟩
    exact hother.elim nofun fun h => h rfl
  rw [NumberText.value]
  dsimp only
  rw [fit_zero hwhole]
  dsimp only
  rw [if_neg hnot, fit_eq hs]
  dsimp only [List.length_nil]
  congr 1
  cases exponent with
  | none =>
    rw [float, exponentValue]
    simp
  | some e =>
    obtain ⟨minus, ds⟩ := e
    rw [exponentValue] at hexponent
    have hle : ¬ greatestExponent < digitsValue ds := by
      cases minus <;> simp at hexponent <;> omega
    simp only [float, exponentValue, if_neg hle]
    cases minus <;> simp [Int.sub_eq_add_neg, Int.add_comm]

/-! ## Digits with zeros -/

theorem digitsValue_append_zeros (ds : List Nat) (k : Nat) :
    digitsValue (ds ++ List.replicate k 0) = digitsValue ds * 10 ^ k := by
  induction k with
  | zero => rw [List.replicate_zero, List.append_nil, Nat.pow_zero, Nat.mul_one]
  | succ k ih =>
    rw [List.replicate_succ', ← List.append_assoc, digitsValue_append_singleton, ih, Nat.pow_succ,
      Nat.mul_assoc, Nat.add_zero]

theorem digitsValue_zeros_append (k : Nat) (ds : List Nat) :
    digitsValue (List.replicate k 0 ++ ds) = digitsValue ds := by
  have hzeros := digitsValue_append_zeros [] k
  rw [List.nil_append] at hzeros
  rw [digitsValue_append, hzeros]
  exact congrArg (ds.foldl _) (Nat.zero_mul _)

theorem digitChars_append (ds es : List Nat) :
    digitChars (ds ++ es) = digitChars ds ++ digitChars es := List.map_append

theorem length_digitChars (ds : List Nat) : (digitChars ds).length = ds.length :=
  List.length_map _

theorem digitChars_zeros (k : Nat) : digitChars (List.replicate k 0) = List.replicate k '0' :=
  List.map_replicate

/-! ## Texts that stand for a decimal -/

/-- With the sign in front, the text is a number that stands for the decimal. -/
def Spelled (negative : Bool) (d : Decimal) (text : List Char) : Prop :=
  ∃ n, SpelledNumber n ((if negative then ['-'] else []) ++ text) ∧ n.negative = negative ∧
    n.Stands d

/-- A whole number is an exponent, with its sign written out. -/
theorem exists_isExponent (lead : Int) :
    ∃ es, IsExponent (some es)
      ('e' :: ((if lead < 0 then ['-'] else ['+']) ++ Nat.toDigits 10 lead.natAbs)) ∧
      exponentValue (some es) = lead := by
  obtain ⟨ds, hds, hchars, hvalue⟩ := exists_isWhole_toDigits lead.natAbs
  rw [← hchars]
  rcases Int.lt_or_le lead 0 with hneg | hnonneg
  · rw [if_pos hneg]
    refine ⟨(true, ds), .minus (by decide : 'e' ∈ ['e', 'E']) hds.isDigits, ?_⟩
    rw [exponentValue, hvalue, if_pos rfl]
    omega
  · rw [if_neg (Int.not_lt.2 hnonneg)]
    refine ⟨(false, ds), .plus (by decide : 'e' ∈ ['e', 'E']) hds.isDigits, ?_⟩
    rw [exponentValue, hvalue, if_neg nofun]
    omega

section
variable (negative : Bool) {whole : List Nat} (hwhole : IsWhole whole)
include hwhole

/-- A whole part and a fraction. -/
theorem spelled_point {fraction : List Nat} (hfraction : IsDigits fraction) :
    Spelled negative ⟨digitsValue (whole ++ fraction), -fraction.length⟩
      (digitChars whole ++ '.' :: digitChars fraction) := by
  have hspelled := @SpelledNumber.parts negative _ _ _ _ _ _ hwhole (.present hfraction) .absent
  rw [List.append_nil] at hspelled
  refine ⟨_, hspelled, rfl, rfl, .inl rfl, ?_, Nat.zero_le _⟩
  rw [NumberText.decimal, exponentValue, Int.zero_sub]

/-- With an exponent. -/
theorem spelled_exponent {pointed : Bool} {fraction : List Nat} {fs : List Char}
    (hfraction : IsFraction pointed fraction fs) {lead : Int}
    (hlead : lead.natAbs ≤ greatestExponent) :
    Spelled negative ⟨digitsValue (whole ++ fraction), lead - fraction.length⟩
      (digitChars whole ++ (fs ++
        'e' :: ((if lead < 0 then ['-'] else ['+']) ++ Nat.toDigits 10 lead.natAbs))) := by
  obtain ⟨es, hes, hvalue⟩ := exists_isExponent lead
  have hspelled := @SpelledNumber.parts negative _ _ _ _ _ _ hwhole hfraction hes
  refine ⟨_, hspelled, rfl, rfl, .inr (Option.some_ne_none _), ?_, ?_⟩
  · rw [NumberText.decimal, hvalue]
  · rwa [hvalue]

end

/-! ## The text of a decimal -/

/-- The decimal with the zeros that its positional text has before and behind the point. -/
def asWritten (d : Decimal) : Decimal :=
  if 0 ≤ d.exponent ∧ d.order ≤ 16 then ⟨d.significand * 10 ^ (d.exponent.toNat + 1), -1⟩ else d

section
variable (negative : Bool) {ds : List Nat} (hds : IsWhole ds)
include hds

/-- Zeros behind the digits, then the point and one more. -/
theorem spelled_integer {k : Nat} (hk : digitsValue ds = 0 → k = 0) :
    Spelled negative ⟨digitsValue ds * 10 ^ (k + 1), -1⟩
      (writePositional true (digitChars ds) k) := by
  have hwhole : IsWhole (ds ++ List.replicate k 0) := by
    by_cases hvalue : digitsValue ds = 0
    · rwa [hk hvalue, List.replicate_zero, List.append_nil]
    · exact hds.append hvalue fun d hd => (List.eq_of_mem_replicate hd).symm ▸ by decide
  have hzero : IsDigits [0] := ⟨by decide, by decide⟩
  have hspelled := spelled_point negative hwhole hzero
  have hzeros : ds ++ List.replicate k 0 ++ [0] = ds ++ List.replicate (k + 1) 0 := by
    rw [List.replicate_succ', List.append_assoc]
  rw [hzeros, digitsValue_append_zeros, digitChars_append, digitChars_zeros] at hspelled
  rw [writePositional, if_pos (Int.natCast_nonneg k), Int.toNat_natCast, if_pos rfl]
  exact hspelled

/-- The point between the digits. -/
theorem spelled_between {e : Int} (hneg : e < 0) (hpoint : 0 < ds.length + e) :
    Spelled negative ⟨digitsValue ds, e⟩ (writePositional true (digitChars ds) e) := by
  obtain ⟨k, hk⟩ : ∃ k : Nat, ds.length + e = k + 1 := ⟨(ds.length + e - 1).toNat, by omega⟩
  have hwhole : IsWhole (ds.take (k + 1)) := by
    cases hds with
    | zero =>
      rw [List.length_singleton] at hk
      omega
    | @nonzero d ds hd hall =>
      exact .nonzero hd ⟨List.cons_ne_nil _ _,
        fun x hx => hall.lt_ten x (List.mem_of_mem_take (i := k + 1) hx)⟩
  have hfraction : IsDigits (ds.drop (k + 1)) := by
    refine ⟨?_, fun x hx => hds.lt_ten x (List.mem_of_mem_drop hx)⟩
    rw [ne_eq, List.drop_eq_nil_iff]
    omega
  have hspelled := spelled_point negative hwhole hfraction
  have hlength : -((ds.drop (k + 1)).length : Int) = e := by
    rw [List.length_drop]
    omega
  rw [List.take_append_drop, hlength] at hspelled
  have htoNat : ((ds.length : Int) + e).toNat = k + 1 := by omega
  rw [writePositional, length_digitChars, if_neg (Int.not_le.2 hneg), if_pos hpoint, htoNat,
    digitChars, ← List.map_take, ← List.map_drop]
  exact hspelled

/-- The point before the digits, with zeros that fill up to it. -/
theorem spelled_before {e : Int} (hneg : e < 0) (hpoint : ds.length + e ≤ 0) :
    Spelled negative ⟨digitsValue ds, e⟩ (writePositional true (digitChars ds) e) := by
  obtain ⟨k, hk⟩ : ∃ k : Nat, -(ds.length + e) = k := ⟨(-(ds.length + e)).toNat, by omega⟩
  have hfraction : IsDigits (List.replicate k 0 ++ ds) := by
    refine ⟨List.append_ne_nil_of_right_ne_nil _ hds.isDigits.ne_nil, fun d hd => ?_⟩
    rcases List.mem_append.1 hd with hd | hd
    · exact (List.eq_of_mem_replicate hd).symm ▸ by decide
    · exact hds.lt_ten d hd
  have hspelled := spelled_point negative .zero hfraction
  have hlength : -((List.replicate k 0 ++ ds).length : Int) = e := by
    rw [List.length_append, List.length_replicate]
    omega
  have hzeros : [0] ++ (List.replicate k 0 ++ ds) = List.replicate (k + 1) 0 ++ ds := rfl
  rw [hlength, hzeros, digitsValue_zeros_append, digitChars_append, digitChars_zeros] at hspelled
  rw [writePositional, length_digitChars, if_neg (Int.not_le.2 hneg),
    if_neg (Int.not_lt.2 hpoint), hk, Int.toNat_natCast]
  exact hspelled

/-- The point behind the first digit, and an exponent. -/
theorem spelled_scientific {e : Int} (hvalue : digitsValue ds ≠ 0)
    (hlead : (ds.length + e - 1).natAbs ≤ greatestExponent) :
    Spelled negative ⟨digitsValue ds, e⟩ (writeExponent true (digitChars ds) e) := by
  cases hds with
  | zero => exact absurd rfl hvalue
  | @nonzero d ds hd hall =>
    have hwhole : IsWhole [d] :=
      .nonzero hd ⟨List.cons_ne_nil _ _, fun x hx => hall.lt_ten x (List.mem_cons.2 <|
        .inl (List.mem_singleton.1 hx))⟩
    cases ds with
    | nil =>
      have hspelled := spelled_exponent negative hwhole .absent hlead
      have hexponent : (([d] : List Nat).length : Int) + e - 1 - ([] : List Nat).length = e := by
        simp only [List.length_cons, List.length_nil]
        omega
      rw [hexponent, List.append_nil] at hspelled
      exact hspelled
    | cons d' ds =>
      have hfraction : IsDigits (d' :: ds) :=
        ⟨List.cons_ne_nil _ _, fun x hx => hall.lt_ten x (List.mem_cons_of_mem _ hx)⟩
      have hspelled := spelled_exponent negative hwhole (.present hfraction) hlead
      have hexponent : ((d :: d' :: ds).length : Int) + e - 1 - (d' :: ds).length = e := by
        simp only [List.length_cons]
        omega
      rw [hexponent] at hspelled
      have htext : writeExponent true (digitChars (d :: d' :: ds)) e = digitChars [d] ++
          (('.' :: digitChars (d' :: ds)) ++ 'e' ::
            ((if ((d :: d' :: ds).length : Int) + e - 1 < 0 then ['-'] else ['+']) ++
              Nat.toDigits 10 (((d :: d' :: ds).length : Int) + e - 1).natAbs)) := by
        simp [writeExponent, digitChars]
      rw [htext]
      exact hspelled

end

/-- **The text of a decimal is a number that stands for it**, with the zeros of its text. -/
theorem spelled_writeDecimal (negative : Bool) {d : Decimal}
    (hzero : d.significand = 0 → d.exponent = 0)
    (hlead : (d.order - 1).natAbs ≤ greatestExponent) :
    Spelled negative (asWritten d) (writeDecimal floatStyle d) := by
  obtain ⟨s, e⟩ := d
  obtain ⟨ds, hds, hchars, rfl⟩ := exists_isWhole_toDigits s
  have hlength : Decimal.digitCount (digitsValue ds) = ds.length := by
    rw [Decimal.digitCount, ← hchars, length_digitChars]
  simp only [Decimal.order, hlength] at hzero hlead
  unfold asWritten writeDecimal
  simp only [Decimal.order, hlength, floatStyle, ← hchars, length_digitChars, decide_eq_true_eq]
  by_cases hpositional :
      digitsValue ds = 0 ∨ -5 ≤ (ds.length : Int) + e - 1 ∧ (ds.length : Int) + e - 1 ≤ 15
  · rw [if_pos hpositional]
    rcases Int.lt_or_le e 0 with hneg | hnonneg
    · rw [if_neg fun h => Int.not_le.2 hneg h.1]
      rcases Int.lt_or_le 0 (ds.length + e) with hpoint | hpoint
      · exact spelled_between negative hds hneg hpoint
      · exact spelled_before negative hds hneg hpoint
    · -- only here the text has zeros that the decimal lacks
      have horder : (ds.length : Int) + e ≤ 16 := by
        rcases hpositional with hvalue | hlead
        · rw [hvalue] at hlength
          have hone : Decimal.digitCount 0 = 1 := by decide
          have := hzero hvalue
          omega
        · omega
      obtain ⟨k, rfl⟩ := Int.eq_ofNat_of_zero_le hnonneg
      rw [if_pos ⟨hnonneg, horder⟩]
      exact spelled_integer negative hds fun h => Int.ofNat_eq_zero.1 (hzero h)
  · obtain ⟨hvalue, hrange⟩ := not_or.1 hpositional
    have hpos := List.length_pos_iff.2 hds.isDigits.ne_nil
    rw [if_neg hpositional, if_neg (by omega)]
    exact spelled_scientific negative hds hvalue hlead

/-- Two hundred and fifty is read as so many tenths. -/
example : writeDecimal floatStyle ⟨25, 1⟩ = ['2', '5', '0', '.', '0'] ∧
    asWritten ⟨25, 1⟩ = ⟨2500, -1⟩ := by
  decide

/-! ## The zeros of a text -/

theorem round_asWritten (negative : Bool) (d : Decimal) :
    (asWritten d).round negative = d.round negative := by
  unfold asWritten
  split
  · next h =>
    have hexponent : -1 + ((d.exponent.toNat + 1 : Nat) : Int) = d.exponent := by omega
    rw [Decimal.round_scale, hexponent]
  · rfl

theorem asWritten_denotes {d : Decimal} {units : Nat} (h : d.Denotes units) :
    (asWritten d).Denotes units := by
  unfold Decimal.Denotes at h ⊢
  rwa [round_asWritten]

theorem significand_asWritten_lt {d : Decimal} (h : d.significand < 10 ^ (17 : Nat)) :
    (asWritten d).significand < 10 ^ (17 : Nat) := by
  unfold asWritten
  split
  · next hwritten =>
    obtain ⟨hnonneg, horder⟩ := hwritten
    rw [Decimal.order] at horder
    have hlt := Decimal.lt_ten_pow_digitCount d.significand
    calc d.significand * 10 ^ (d.exponent.toNat + 1)
        < 10 ^ Decimal.digitCount d.significand * 10 ^ (d.exponent.toNat + 1) :=
          Nat.mul_lt_mul_of_pos_right hlt (Nat.pow_pos (by decide))
      _ = 10 ^ (Decimal.digitCount d.significand + (d.exponent.toNat + 1)) :=
          (Nat.pow_add ..).symm
      _ ≤ 10 ^ (17 : Nat) := Nat.pow_le_pow_right (by decide) (by omega)
  · exact h

theorem exponent_asWritten_eq (d : Decimal) :
    (asWritten d).exponent = -1 ∨ asWritten d = d := by
  unfold asWritten
  split
  · exact .inl rfl
  · exact .inr rfl

/-! ## Numbers written and read -/

/-- The units of what is read from the text of a number. -/
def rereadUnits (units : Nat) : Nat := scaledUnits (asWritten (shortest floatStyle.tie units))

/-- A decimal that is not chosen for the number that it is rounded to is not chosen at all. -/
theorem shortest_ne {tie : Tie} {d : Decimal}
    (h : shortest tie (roundUnits d.numerator d.denominator) ≠ d) {units : Nat}
    (hr : Representable units) : shortest tie units ≠ d := by
  rintro rfl
  rw [roundUnits_of_denotes (shortest_denotes tie hr) hr] at h
  exact h rfl

/-- The greatest number of the format is written with the smaller one of the two significands
    that denote it. -/
theorem shortest_ne_borderline {units : Nat} (hr : Representable units) :
    shortest floatStyle.tie units ≠ borderline :=
  shortest_ne (by decide +kernel) hr

section
variable {units : Nat} (hr : Representable units)
include hr

theorem shortest_eq_zero_of_significand (tie : Tie) (h : (shortest tie units).significand = 0) :
    units = 0 := by
  refine Nat.eq_zero_of_not_pos fun hpos => ?_
  exact Decimal.significand_ne_zero_of_denotes (shortest_denotes tie hr) hpos h

/-- The exponent is in the range of the format. -/
theorem exponent_shortest_range (tie : Tie) :
    -347 ≤ (shortest tie units).exponent ∧ (shortest tie units).exponent ≤ 308 := by
  rcases Nat.eq_zero_or_pos units with rfl | hpos
  · rw [shortest, if_pos rfl]
    decide
  · have hdenotes := shortest_denotes tie hr
    exact ⟨le_exponent_of_denotes hdenotes hpos (significand_shortest_lt tie hr),
      exponent_le_of_denotes hdenotes hr hpos⟩

/-- What is read from the text of a number is finite. -/
theorem exists_scale_asWritten :
    ∃ hr', scale (.ofNat (asWritten (shortest floatStyle.tie units)).significand)
      (asWritten (shortest floatStyle.tie units)).exponent =
        .ok (finite false (rereadUnits units) hr') := by
  have hs := significand_asWritten_lt (significand_shortest_lt floatStyle.tie hr)
  obtain ⟨hlow, hhigh⟩ := exponent_shortest_range hr floatStyle.tie
  have hdenotes := asWritten_denotes (shortest_denotes floatStyle.tie hr)
  have hne : asWritten (shortest floatStyle.tie units) ≠ borderline := by
    rcases exponent_asWritten_eq (shortest floatStyle.tie units) with hexponent | heq
    · exact fun h => absurd (h ▸ hexponent) (by decide)
    · rw [heq]
      exact shortest_ne_borderline hr
  have hrange : -347 ≤ (asWritten (shortest floatStyle.tie units)).exponent ∧
      (asWritten (shortest floatStyle.tie units)).exponent ≤ 308 := by
    rcases exponent_asWritten_eq (shortest floatStyle.tie units) with hexponent | heq
    · rw [hexponent]
      decide
    · rw [heq]
      exact ⟨hlow, hhigh⟩
  exact scale_eq (Nat.le_trans hs.le (by decide)) (Int.le_trans (by decide) hrange.1) hrange.2
    fun hnonneg => productUnits_lt hdenotes hr hs hnonneg hrange.2 hne

theorem natAbs_order_le :
    ((shortest floatStyle.tie units).order - 1).natAbs ≤ greatestExponent := by
  obtain ⟨hlow, hhigh⟩ := exponent_shortest_range hr floatStyle.tie
  have hdigits : Decimal.digitCount (shortest floatStyle.tie units).significand ≤ 17 :=
    (Nat.length_toDigits_le_iff (by decide) (by decide)).2 (significand_shortest_lt _ hr)
  rw [Decimal.order, greatestExponent]
  omega

/-- **What is read from the text of a finite number is a finite number of the same sign.** -/
theorem isFloat_writeFloat (negative : Bool) :
    ∃ hr', IsFloat (finite negative (rereadUnits units) hr')
      (writeFloat (finite negative units hr)).toList := by
  have hzero : (shortest floatStyle.tie units).significand = 0 →
      (shortest floatStyle.tie units).exponent = 0 := by
    intro hs
    rw [shortest, if_pos (shortest_eq_zero_of_significand hr floatStyle.tie hs)]
  obtain ⟨n, hspelled, hnegative, hstands⟩ :=
    spelled_writeDecimal negative hzero (natAbs_order_le hr)
  obtain ⟨hr', hscale⟩ := exists_scale_asWritten hr
  have htext : (writeFloat (finite negative units hr)).toList =
      (if negative then ['-'] else []) ++
        writeDecimal floatStyle (shortest floatStyle.tie units) := by
    have hfinite : (finite negative units hr).isFinite = true := rfl
    rw [writeFloat, if_pos hfinite, write, Binary64.withSign, String.toList_ofList]
    cases negative <;> rfl
  have hvalue := hstands.value (Nat.lt_trans
    (significand_asWritten_lt (significand_shortest_lt floatStyle.tie hr)) (by decide))
  rw [hscale, hnegative] at hvalue
  refine ⟨hr', ?_⟩
  rw [htext]
  refine .number hspelled hvalue ?_
  cases negative <;> rfl

/-- **It is no further than six places from the number that was written.** -/
theorem dist_rereadUnits_le : |(rereadUnits units : ℚ) - units| ≤ 6 * 2 ^ spacing units :=
  dist_scaledUnits_le (asWritten_denotes (shortest_denotes floatStyle.tie hr)) hr

end

/-- The digits of the text of a number make up no more than 2^53, and they are scaled by no
    more than 10^22. -/
def BrieflyWritten (units : Nat) : Prop :=
  (asWritten (shortest floatStyle.tie units)).significand ≤ 2 ^ (53 : Nat) ∧
    (asWritten (shortest floatStyle.tie units)).exponent.natAbs ≤ 22

instance (units : Nat) : Decidable (BrieflyWritten units) :=
  inferInstanceAs (Decidable (_ ∧ _))

/-- **What has few digits is read as it was written.** -/
theorem rereadUnits_eq {units : Nat} (hr : Representable units) (h : BrieflyWritten units) :
    rereadUnits units = units :=
  scaledUnits_eq (asWritten_denotes (shortest_denotes floatStyle.tie hr)) hr h.1 h.2

end PolicyBench.Json
