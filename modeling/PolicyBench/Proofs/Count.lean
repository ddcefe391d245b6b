/-
  PolicyBench — counts and their texts.

  A run of digits stands for a count if they are ASCII digits and the value fits.

  * `Counts cs n`: the digits `cs` stand for the count `n`;
  * `readCount_eq_ok_iff`: digits without a sign are read exactly then;
  * `readCount_toDigits`: the digits of a count are read as that count.
-/
import PolicyBench.Count

namespace PolicyBench

-- `2 ^ n` is the core library's power, also where another one is in scope.
attribute [local instance (high)] instPowNat

/-- The characters are ASCII digits whose value is the count `n`. -/
def Counts (cs : List Char) (n : UInt64) : Prop :=
  (∀ c ∈ cs, '0' ≤ c ∧ c ≤ '9') ∧ Nat.ofDigitChars 10 cs 0 < 2 ^ (64 : Nat) ∧
    n.toNat = Nat.ofDigitChars 10 cs 0

theorem isDigit_iff {c : Char} : c.isDigit = true ↔ '0' ≤ c ∧ c ≤ '9' := by
  simp [Char.isDigit, Char.le_def]

theorem readCount_cons {c : Char} (hc : c ≠ '+') (cs : List Char) :
    readCount (c :: cs) = readDigits 0 (c :: cs) := by
  unfold readCount
  split <;> simp_all

/-- Characters without a sign are read exactly if they are digits of a count. -/
theorem readCount_eq_ok_iff {cs : List Char} (hne : cs ≠ []) (hsign : '+' ∉ cs) {n : UInt64} :
    readCount cs = .ok n ↔ Counts cs n := by
  obtain ⟨c, rest, rfl⟩ := List.exists_cons_of_ne_nil hne
  have hc : c ≠ '+' := by
    rintro rfl
    exact hsign List.mem_cons_self
  rw [readCount_cons hc, readDigits_eq_ok_iff (by decide)]
  simp only [Counts, isDigit_iff]

theorem readCount_toDigits (n : UInt64) : readCount (Nat.toDigits 10 n.toNat) = .ok n := by
  have hdigit {c : Char} (hc : c ∈ Nat.toDigits 10 n.toNat) : c.isDigit = true :=
    Nat.isDigit_of_mem_toDigits (by decide) (by decide) hc
  have hsign : '+' ∉ Nat.toDigits 10 n.toNat := fun h => absurd (hdigit h) (by decide)
  rw [readCount_eq_ok_iff Nat.toDigits_ne_nil hsign, Counts, Nat.ofDigitChars_ten_toDigits]
  exact ⟨fun c hc => isDigit_iff.1 (hdigit hc), n.toNat_lt, rfl⟩

end PolicyBench
