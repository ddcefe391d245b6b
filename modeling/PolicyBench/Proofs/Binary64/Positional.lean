/-
  PolicyBench — positional texts read back.

  A finite number that is written without an exponent is a sign, digits, and
  perhaps a point with more digits.  Read again, such a text is the number.

  * `Plain text d`: `text` is digits with an optional point and stands for `d`;
  * `ofText?_plain`: such a text is read as the number nearest to `d`;
  * `exists_plain_writePositional`: positional texts are of that form, whatever
    the place of the point;
  * `ofText?_write`: a finite number is read back from its positional text.
-/
import PolicyBench.Binary64.Text
import PolicyBench.Proofs.Binary64.Exact
import PolicyBench.Proofs.Text.Runs

namespace PolicyBench.Binary64

open PolicyBench.Text

-- `2 ^ n` is the core library's power, also where another one is in scope.
attribute [local instance (high)] instPowNat

/-! ## Texts of digits with an optional point -/

/-- All characters are ASCII digits. -/
def AllDigits (cs : List Char) : Prop := ∀ c ∈ cs, c.isDigit = true

theorem allDigits_toDigits (n : Nat) : AllDigits (Nat.toDigits 10 n) :=
  fun _ hc => Nat.isDigit_of_mem_toDigits (by decide) (by decide) hc

theorem AllDigits.append {s t : List Char} (hs : AllDigits s) (ht : AllDigits t) :
    AllDigits (s ++ t) :=
  fun c hc => (List.mem_append.1 hc).elim (hs c) (ht c)

theorem allDigits_zeros (n : Nat) : AllDigits (List.replicate n '0') :=
  fun _ hc => (List.eq_of_mem_replicate hc).symm ▸ rfl

/-- Digits, or digits and a point with more digits, and the decimal they stand for. -/
inductive Plain : List Char → Decimal → Prop
  | whole {ds : List Char} : ds ≠ [] → AllDigits ds → Plain ds ⟨Nat.ofDigitChars 10 ds 0, 0⟩
  | point {ds fs : List Char} : ds ≠ [] → AllDigits ds → fs ≠ [] → AllDigits fs →
      Plain (ds ++ '.' :: fs) ⟨Nat.ofDigitChars 10 (ds ++ fs) 0, -(fs.length : Int)⟩

theorem Plain.head {cs : List Char} {d : Decimal} (h : Plain cs d) :
    ∃ c rest, cs = c :: rest ∧ c.isDigit = true := by
  cases h with
  | whole hne hd =>
    obtain ⟨c, rest, rfl⟩ := List.exists_cons_of_ne_nil hne
    exact ⟨c, rest, rfl, hd c List.mem_cons_self⟩
  | point hne hd =>
    obtain ⟨c, rest, rfl⟩ := List.exists_cons_of_ne_nil hne
    exact ⟨c, _, rfl, hd c List.mem_cons_self⟩

theorem Plain.isDigit_or_eq_point {cs : List Char} {d : Decimal} (h : Plain cs d) {c : Char}
    (hc : c ∈ cs) : c.isDigit = true ∨ c = '.' := by
  cases h with
  | whole _ hd => exact .inl (hd c hc)
  | point _ hd _ hf =>
    rcases List.mem_append.1 hc with hc | hc
    · exact .inl (hd c hc)
    · rcases List.mem_cons.1 hc with rfl | hc
      · exact .inr rfl
      · exact .inl (hf c hc)

/-! ## Reading -/

/-- A sign in front of a digit is told from it. -/
theorem takeSign_signed (negative : Bool) {c : Char} (hc : c.isDigit = true) (cs : List Char) :
    takeSign (if negative then '-' :: c :: cs else c :: cs) = (negative, c :: cs) := by
  cases negative with
  | true => rfl
  | false =>
    have hminus : c ≠ '-' := by rintro rfl; cases hc
    have hplus : c ≠ '+' := by rintro rfl; cases hc
    simp [takeSign, hminus, hplus]

/-- A text of that form is read as the number nearest to what it stands for. -/
theorem ofText?_plain {cs : List Char} {d : Decimal} (h : Plain cs d) (negative : Bool) :
    ofText? (if negative then '-' :: cs else cs) = some (d.round negative) := by
  have hsign : takeSign (if negative then '-' :: cs else cs) = (negative, cs) := by
    obtain ⟨c, rest, rfl, hc⟩ := h.head
    exact takeSign_signed negative hc rest
  unfold ofText? decimal?
  rw [hsign]
  cases h with
  | whole hne hd =>
    have htake := takeWhile_run hd stops_nil
    have hdrop := dropWhile_run hd stops_nil
    rw [List.append_nil] at htake hdrop
    simp [htake, hdrop, takeFraction, hne, readExponent]
  | @point ds fs hne hd _ hf =>
    have hpoint : Stops Char.isDigit ('.' :: fs) := stops_cons.2 rfl
    have htake := takeWhile_run hf stops_nil
    have hdrop := dropWhile_run hf stops_nil
    rw [List.append_nil] at htake hdrop
    simp [takeWhile_run hd hpoint, dropWhile_run hd hpoint, takeFraction, htake, hdrop, hne,
      readExponent]

/-! ## Writing -/

theorem ofDigitChars_append_zeros (ds : List Char) (n : Nat) :
    Nat.ofDigitChars 10 (ds ++ List.replicate n '0') 0 = Nat.ofDigitChars 10 ds 0 * 10 ^ n := by
  rw [Nat.ofDigitChars_append, Nat.ofDigitChars_replicate_zero, Nat.mul_comm]

theorem ofDigitChars_zeros_append (ds : List Char) (n : Nat) :
    Nat.ofDigitChars 10 (List.replicate n '0' ++ ds) 0 = Nat.ofDigitChars 10 ds 0 := by
  rw [Nat.ofDigitChars_append, Nat.ofDigitChars_replicate_zero, Nat.mul_zero]

/-- A positional text is digits with an optional point, and its value is that of
    the digits with the exponent. -/
theorem exists_plain_writePositional (pointZero : Bool) {ds : List Char} (hne : ds ≠ [])
    (hd : AllDigits ds) (exponent : Int) :
    ∃ d, Plain (writePositional pointZero ds exponent) d ∧
      ∀ negative,
        d.round negative = Decimal.round negative ⟨Nat.ofDigitChars 10 ds 0, exponent⟩ := by
  have hpos := List.length_pos_iff.2 hne
  unfold writePositional
  dsimp only
  split
  · next hexp =>
    -- the point lies behind the digits and the zeros that fill up to it
    obtain ⟨k, rfl⟩ := Int.eq_ofNat_of_zero_le hexp
    have hall := hd.append (allDigits_zeros k)
    have hfull : ds ++ List.replicate k '0' ≠ [] := List.append_ne_nil_of_left_ne_nil hne _
    rw [Int.toNat_natCast]
    cases pointZero with
    | false =>
      refine ⟨_, by simpa using Plain.whole hfull hall, fun negative => ?_⟩
      rw [ofDigitChars_append_zeros, Decimal.round_scale, Int.zero_add]
    | true =>
      refine ⟨_, @Plain.point _ ['0'] hfull hall (by simp) (allDigits_zeros 1),
        fun negative => ?_⟩
      have hzeros : ds ++ List.replicate k '0' ++ ['0'] = ds ++ List.replicate (k + 1) '0' := by
        rw [List.replicate_succ', List.append_assoc]
      rw [hzeros, ofDigitChars_append_zeros, Decimal.round_scale]
      congr 2
      simp only [List.length_cons, List.length_nil]
      omega
  · next hexp =>
    split
    · next hpoint =>
      -- the point lies between two digits
      have htake : ds.take (ds.length + exponent).toNat ≠ [] := by
        simp only [ne_eq, List.take_eq_nil_iff, hne, or_false]; omega
      have hdrop : ds.drop (ds.length + exponent).toNat ≠ [] := by
        rw [ne_eq, List.drop_eq_nil_iff]; omega
      refine ⟨_, Plain.point htake (fun c hc => hd c (List.mem_of_mem_take hc)) hdrop
        (fun c hc => hd c (List.mem_of_mem_drop hc)), fun negative => ?_⟩
      rw [List.take_append_drop, List.length_drop]
      congr 2
      omega
    · next hpoint =>
      -- the point lies before the digits and the zeros that fill up to it
      obtain ⟨k, hk⟩ : ∃ k : Nat, -((ds.length : Int) + exponent) = k :=
        ⟨(-((ds.length : Int) + exponent)).toNat, by omega⟩
      rw [hk, Int.toNat_natCast]
      refine ⟨_, @Plain.point ['0'] (List.replicate k '0' ++ ds) (by simp) (allDigits_zeros 1)
        (List.append_ne_nil_of_right_ne_nil _ hne) ((allDigits_zeros k).append hd),
        fun negative => ?_⟩
      have hzeros : ['0'] ++ (List.replicate k '0' ++ ds) = List.replicate (k + 1) '0' ++ ds := rfl
      rw [hzeros, ofDigitChars_zeros_append]
      congr 2
      simp only [List.length_append, List.length_replicate]
      omega

/-- **A finite number is read back from its positional text.** -/
theorem ofText?_write {style : Style} (hstyle : style.positional = none) {x : Binary64}
    (hx : x.isFinite = true) : ofText? (x.write style).toList = some x := by
  cases x with
  | nan => cases hx
  | infinite => cases hx
  | finite negative units h =>
    obtain ⟨d, hd, hround⟩ := exists_plain_writePositional style.pointZero Nat.toDigits_ne_nil
      (allDigits_toDigits (shortest style.tie units).significand)
      (shortest style.tie units).exponent
    simp only [write, withSign, String.toList_ofList, writeDecimal, hstyle, if_true]
    rw [ofText?_plain hd, hround, Nat.ofDigitChars_ten_toDigits,
      round_shortest style.tie negative h]

end PolicyBench.Binary64
