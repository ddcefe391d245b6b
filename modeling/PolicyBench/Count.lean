/-
  PolicyBench — counts read from decimal digits.

  A count is an unsigned number of 64 bits.  Its text is a non-empty run of
  ASCII digits, after an optional plus sign.

  * `CountError` says why a text is no count, `CountError.message` in words;
  * `readDigits` reads digits from the left and stops at the first problem, so
    an invalid character is noticed only if the number has not overflowed
    before it;
  * `readCount` reads a whole text;
  * `readDigits_eq_ok_iff`: it succeeds exactly on digits whose value fits, and
    gives that value.
-/

namespace PolicyBench

-- `2 ^ n` is the core library's power, also where another one is in scope.
attribute [local instance (high)] instPowNat

/-- Why a text is no count. -/
inductive CountError where
  /-- there is no character at all -/
  | empty
  /-- a character is no ASCII digit, or a sign stands alone -/
  | invalidDigit
  /-- the value is 2^64 or more -/
  | tooLarge
  deriving DecidableEq, Repr

/-- The problem in words. -/
def CountError.message : CountError → String
  | empty => "cannot parse integer from empty string"
  | invalidDigit => "invalid digit found in string"
  | tooLarge => "number too large to fit in target type"

/-- Continues the number `n` with further digits, from the left. -/
def readDigits (n : Nat) : List Char → Except CountError UInt64
  | [] => .ok (.ofNat n)
  | c :: cs =>
    if c.isDigit then
      let n' := 10 * n + (c.toNat - '0'.toNat)
      if n' < 2 ^ (64 : Nat) then readDigits n' cs else .error .tooLarge
    else .error .invalidDigit

/-- The count that a text stands for. -/
def readCount : List Char → Except CountError UInt64
  | [] => .error .empty
  | ['+'] => .error .invalidDigit
  | '+' :: cs => readDigits 0 cs
  | cs => readDigits 0 cs

theorem le_ofDigitChars (cs : List Char) (n : Nat) : n ≤ Nat.ofDigitChars 10 cs n := by
  induction cs generalizing n with
  | nil => simp
  | cons c cs ih =>
    rw [Nat.ofDigitChars_cons]
    exact Nat.le_trans (by omega) (ih _)

/-- Digits are read exactly if their value fits, and then give that value. -/
theorem readDigits_eq_ok_iff {cs : List Char} {n : Nat} {v : UInt64} (hn : n < 2 ^ (64 : Nat)) :
    readDigits n cs = .ok v ↔
      (∀ c ∈ cs, c.isDigit = true) ∧ Nat.ofDigitChars 10 cs n < 2 ^ (64 : Nat) ∧
        v.toNat = Nat.ofDigitChars 10 cs n := by
  induction cs generalizing n with
  | nil =>
    rw [readDigits, Nat.ofDigitChars_nil]
    constructor
    · rintro ⟨rfl⟩
      exact ⟨fun _ h => (nomatch h), hn, UInt64.toNat_ofNat_of_lt' hn⟩
    · rintro ⟨-, -, h⟩
      rw [← h, UInt64.ofNat_toNat]
  | cons c cs ih =>
    have hle := le_ofDigitChars cs (10 * n + (c.toNat - '0'.toNat))
    rw [readDigits, Nat.ofDigitChars_cons]
    by_cases hc : c.isDigit = true
    · by_cases hlt : 10 * n + (c.toNat - '0'.toNat) < 2 ^ (64 : Nat)
      · simp only [hc, if_pos hlt, if_true, ih hlt, List.mem_cons, forall_eq_or_imp, true_and]
      · simp only [hc, if_neg hlt, if_true]
        constructor
        · intro h; cases h
        · rintro ⟨-, h, -⟩; omega
    · simp [hc]

end PolicyBench
