/-
  PolicyBench — the order of texts and of their bytes.

  Texts are ordered by their characters, the first difference decides.  The
  encoding keeps that order: the code of a character starts with its leading
  digits, and a longer code starts with a greater byte.

  * `digits_lt`: the digits of a code point in base 64 are in its order;
  * `utf8EncodeChar_append_lt`: so are the codes, whatever stands behind them;
  * `utf8_lt_utf8`: the smaller text has the smaller bytes.
-/
import Mathlib.Tactic.SplitIfs
import PolicyBench.Text.Utf8

namespace PolicyBench.Text

/-! ## Digits -/

/-- Of two numbers, the smaller is smaller in its leading digits, or in the last. -/
theorem div_lt_or_mod_lt {m n : Nat} (h : m < n) (k : Nat) :
    m / k < n / k ∨ m / k = n / k ∧ m % k < n % k := by
  rcases Nat.lt_or_eq_of_le (Nat.div_le_div_right (c := k) (Nat.le_of_lt h)) with hlt | heq
  · exact .inl hlt
  · have hm := Nat.div_add_mod m k
    have hn := Nat.div_add_mod n k
    rw [heq] at hm
    exact .inr ⟨heq, by omega⟩

/-- The smaller code point has the smaller digits in base 64, the leading ones
    first. -/
theorem digits_lt {m n : Nat} (h : m < n) (hn : n < 0x110000) :
    m / 262144 % 8 < n / 262144 % 8 ∨ m / 262144 % 8 = n / 262144 % 8 ∧
      (m / 4096 % 64 < n / 4096 % 64 ∨ m / 4096 % 64 = n / 4096 % 64 ∧
        (m / 64 % 64 < n / 64 % 64 ∨ m / 64 % 64 = n / 64 % 64 ∧ m % 64 < n % 64)) := by
  have hlead : n / 262144 % 8 = n / 262144 := Nat.mod_eq_of_lt (by omega)
  have hlead' : m / 262144 % 8 = m / 262144 := Nat.mod_eq_of_lt (by omega)
  rw [hlead, hlead']
  rcases div_lt_or_mod_lt h 64 with h64 | ⟨h64, hlast⟩
  · rcases div_lt_or_mod_lt h64 64 with h4096 | ⟨h4096, hlast⟩
    · rcases div_lt_or_mod_lt h4096 64 with h | ⟨h, hlast⟩ <;> omega
    · omega
  · omega

/-! ## Codes -/

theorem cons_lt_cons_iff_toNat {a b : UInt8} {s t : Bytes} :
    a :: s < b :: t ↔ a.toNat < b.toNat ∨ a.toNat = b.toNat ∧ s < t := by
  rw [List.cons_lt_cons_iff, UInt8.lt_iff_toNat_lt, UInt8.toNat_inj]

theorem toNat_ofNat_mod_add {v k offset : Nat} (hk : 0 < k) (h : k + offset ≤ 256) :
    (UInt8.ofNat (v % k + offset)).toNat = v % k + offset := by
  have := Nat.mod_lt v hk
  rw [UInt8.toNat_ofNat', Nat.mod_eq_of_lt (by omega)]

/-- A smaller character has the smaller code, whatever follows. -/
theorem utf8EncodeChar_append_lt {c d : Char} (h : c < d) (s t : Bytes) :
    String.utf8EncodeChar c ++ s < String.utf8EncodeChar d ++ t := by
  have hlt : c.val.toNat < d.val.toNat := UInt32.lt_iff_toNat_lt.1 h
  have hd : d.val.toNat < 0x110000 := by rcases d.valid with h | h <;> omega
  have hdigits := digits_lt hlt hd
  unfold String.utf8EncodeChar
  dsimp only
  generalize c.val.toNat = m at hlt hdigits
  generalize d.val.toNat = n at hlt hd hdigits
  have hascii {v : Nat} (h : v ≤ 127) : (UInt8.ofNat v).toNat = v :=
    UInt8.toNat_ofNat_of_lt' (Nat.lt_of_le_of_lt h (by decide))
  split_ifs <;>
    simp (disch := omega) only [List.cons_append, List.nil_append, cons_lt_cons_iff_toNat,
      toNat_ofNat_mod_add, hascii] <;> omega

theorem flatMap_utf8EncodeChar_lt {cs ds : List Char} (h : List.Lex (· < ·) cs ds) :
    cs.flatMap String.utf8EncodeChar < ds.flatMap String.utf8EncodeChar := by
  induction h with
  | @nil c cs =>
    obtain ⟨b, bs, hb⟩ := List.exists_cons_of_ne_nil (String.utf8EncodeChar_ne_nil (c := c))
    rw [List.flatMap_cons, hb]
    exact List.nil_lt_cons ..
  | rel h => exact utf8EncodeChar_append_lt h _ _
  | cons h ih => exact List.append_left_lt ih

/-- **The smaller text has the smaller bytes.** -/
theorem utf8_lt_utf8 {s t : String} (h : s < t) : utf8 s < utf8 t :=
  flatMap_utf8EncodeChar_lt h

end PolicyBench.Text
