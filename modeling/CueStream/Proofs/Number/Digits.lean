-- Whole numbers in digits: their numerals can be read back, and spell the
-- same number.
import CueStream.Number.Reading
import Mathlib.Algebra.Group.Int.Defs
import Mathlib.Algebra.Group.Nat.Defs

namespace CueStream

/-! ## Numerals that can be written down -/

/-- The numeral can be read back. It has only digits, at least one in each part that is there, and a
zero in front only alone. -/
structure Numeral.Proper (n : Numeral) : Prop where
  whole : n.whole ≠ [] ∧ ∀ c ∈ n.whole, c.isDigit
  single : n.whole.head? = some '0' → n.whole.length = 1
  fraction : ∀ c ∈ n.fraction, c.isDigit
  exponent : ∀ e ∈ n.exponent, e.2 ≠ [] ∧ ∀ c ∈ e.2, c.isDigit

/-! ## Digits -/

theorem digitChar_eq_zero : ∀ n < 10, Nat.digitChar n = '0' → n = 0 := by
  decide

/-- Only zero starts with a zero. -/
theorem eq_zero_of_head_ofNat {n : Nat} (h : (Text.ofNat n).head? = some '0') : n = 0 := by
  induction n using Nat.strongRecOn with
  | ind n ih =>
    by_cases hn : n < 10
    · rw [Text.ofNat, Nat.toDigits_of_lt_base hn] at h
      exact digitChar_eq_zero n hn (Option.some.inj h)
    · have hne : Nat.toDigits 10 (n / 10) ≠ [] := Nat.toDigits_ne_nil
      rw [Text.ofNat, Nat.toDigits_of_base_le (by decide) (Nat.not_lt.mp hn), List.head?_append,
        List.head?_eq_some_head hne, Option.some_or, ← List.head?_eq_some_head] at h
      have hzero := ih (n / 10) (by omega) h
      omega

namespace Numeral

theorem proper_of_whole (negative : Bool) (n : Nat) :
    Proper { negative, whole := Text.ofNat n } := by
  refine ⟨⟨Nat.toDigits_ne_nil, fun c hc => Nat.isDigit_of_mem_toDigits (by decide) (by decide) hc⟩,
    ?_, by simp, by simp⟩
  intro hzero
  rw [eq_zero_of_head_ofNat hzero]
  rfl

theorem proper_ofNat (n : Nat) : (ofNat n).Proper :=
  proper_of_whole false n

theorem proper_ofInt (k : Int) : (ofInt k).Proper :=
  proper_of_whole _ k.natAbs

theorem int?_ofNat {n : Nat} (h : n < UInt64.size) : (ofNat n).int? = some (n : Int) := by
  have hdigits : Nat.ofDigitChars 10 (Text.ofNat n) 0 = n := Nat.ofDigitChars_ten_toDigits
  simp [int?, ofNat, hdigits, h]

theorem int?_ofInt {k : Int} (hleast : -(2 ^ 63) ≤ k) (hgreatest : k < 2 ^ 64) :
    (ofInt k).int? = some k := by
  have hdigits : Nat.ofDigitChars 10 (Text.ofNat k.natAbs) 0 = k.natAbs :=
    Nat.ofDigitChars_ten_toDigits
  have hsize : UInt64.size = 2 ^ 64 := rfl
  by_cases hk : k < 0
  · have hfits : 0 < k.natAbs ∧ 2 * k.natAbs ≤ UInt64.size := by omega
    have hself : -(k.natAbs : Int) = k := by omega
    simp only [int?, ofInt, hdigits, hk, hfits, hself, ne_eq, not_true_eq_false, Option.isSome_none,
      Bool.false_eq_true, or_self, if_false, decide_true, if_true, and_self]
  · have hfits : k.natAbs < UInt64.size := by omega
    have hself : (k.natAbs : Int) = k := by omega
    simp only [int?, ofInt, hdigits, hk, hfits, hself, ne_eq, not_true_eq_false, Option.isSome_none,
      Bool.false_eq_true, or_self, if_false, decide_false, if_true]

end Numeral

end CueStream
