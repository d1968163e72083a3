-- The numeral under which a decimal number is written: it has the same value,
-- no digit of it is lost when it is read, and it is no integer.
import CueStream.Number.Reading
import CueStream.Proofs.Number.Digits
import CueStream.Proofs.Number.Naming

namespace CueStream

/-! ## The value of a numeral -/

namespace Numeral

/-- The digits of the numeral without the point. -/
def spelled (n : Numeral) : Nat :=
  Nat.ofDigitChars 10 (n.whole ++ n.fraction) 0

/-- The power of ten that the last digit stands for. -/
def place (n : Numeral) : Int :=
  n.writtenExponent - n.fraction.length

theorem le_ofDigitChars (digits : Text) (init : Nat) : init ≤ Nat.ofDigitChars 10 digits init := by
  induction digits generalizing init with
  | nil => rw [Nat.ofDigitChars_nil]
  | cons c digits ih =>
    rw [Nat.ofDigitChars_cons]
    exact Nat.le_trans (by omega) (ih _)

/-- All digits are gathered if the number that they spell fits. -/
theorem gather_eq {digits : Text} {init : Nat}
    (h : Nat.ofDigitChars 10 digits init < UInt64.size) :
    gather init digits = (Nat.ofDigitChars 10 digits init, []) := by
  induction digits generalizing init with
  | nil => rfl
  | cons c digits ih =>
    rw [Nat.ofDigitChars_cons, Nat.mul_comm] at h ⊢
    have hfits := Nat.lt_of_le_of_lt (le_ofDigitChars _ _) h
    rw [gather, if_pos hfits, ih h]

theorem gathered_eq {n : Numeral} (h : n.spelled < UInt64.size) :
    n.gathered = ⟨n.spelled, n.place⟩ := by
  unfold spelled at *
  rw [Nat.ofDigitChars_append] at h ⊢
  have hwhole := gather_eq (Nat.lt_of_le_of_lt (le_ofDigitChars _ _) h)
  unfold gathered place
  rw [hwhole]
  dsimp only
  rw [gather_eq h]
  dsimp only
  congr 1
  simp only [List.length_nil, Nat.sub_zero]
  omega

end Numeral

/-! ## The digits that are written -/

/-- What is cut off at the end is nothing but that character. -/
theorem Text.trimEndOf_append (c : Char) (t : Text) :
    ∃ z, t = t.trimEndOf c ++ List.replicate z c := by
  have hstart (u : Text) : ∃ z, u = List.replicate z c ++ u.dropWhile (· = c) := by
    induction u with
    | nil => exact ⟨0, rfl⟩
    | cons x u ih =>
      by_cases hx : x = c
      · obtain ⟨z, hz⟩ := ih
        refine ⟨z + 1, ?_⟩
        rw [List.dropWhile_cons_of_pos (by simpa using hx), List.replicate_succ, List.cons_append,
          ← hz, hx]
      · exact ⟨0, by rw [List.dropWhile_cons_of_neg (by simpa using hx)]; rfl⟩
  obtain ⟨z, hz⟩ := hstart t.reverse
  refine ⟨z, ?_⟩
  have hreverse := congrArg List.reverse hz
  rwa [List.reverse_reverse, List.reverse_append, List.reverse_replicate] at hreverse

namespace Layout

/-- What is known of the digits under which a decimal number is written. -/
structure Digits (x : Decimal) (ds : Text) (zeros : Nat) : Prop where
  all : Text.ofNat x.digits = ds ++ List.replicate zeros '0'
  number : Nat.ofDigitChars 10 ds 0 * 10 ^ zeros = x.digits
  digits : ∀ c ∈ ds, c.isDigit
  head : ∃ c more, ds = c :: more ∧ c ≠ '0'

theorem exists_digits {x : Decimal} (hx : 0 < x.digits) : ∃ zeros, Digits x (digits x) zeros := by
  obtain ⟨zeros, hall⟩ := Text.trimEndOf_append '0' (Text.ofNat x.digits)
  have hdigit : ∀ c ∈ Text.ofNat x.digits, c.isDigit :=
    fun c hc => Nat.isDigit_of_mem_toDigits (by decide) (by decide) hc
  have hvalue : Nat.ofDigitChars 10 (Text.ofNat x.digits) 0 = x.digits :=
    Nat.ofDigitChars_ten_toDigits
  have hhead : (Text.ofNat x.digits).head? ≠ some '0' := by
    intro hzero
    have := eq_zero_of_head_ofNat hzero
    omega
  have hne : Text.ofNat x.digits ≠ [] := Nat.toDigits_ne_nil
  refine ⟨zeros, ?_⟩
  unfold digits
  cases htrim : (Text.ofNat x.digits).trimEndOf '0' with
  | nil =>
    -- the first digit is not zero, so something is left
    rw [htrim, List.nil_append] at hall
    cases zeros with
    | zero => exact absurd hall hne
    | succ zeros => exact absurd (by rw [hall]; rfl) hhead
  | cons c more =>
    rw [htrim] at hall
    refine ⟨hall, ?_, ?_, c, more, rfl, ?_⟩
    · rw [hall, Nat.ofDigitChars_append, Nat.ofDigitChars_replicate_zero, Nat.mul_comm] at hvalue
      exact hvalue
    · intro d hd
      exact hdigit d (by rw [hall]; exact List.mem_append_left _ hd)
    · rintro rfl
      exact hhead (by rw [hall]; rfl)

/-- The numeral says what the decimal number says, and it can be read without loss. -/
structure Spells (n : Numeral) (x : Decimal) : Prop where
  proper : n.Proper
  point : n.fraction ≠ [] ∨ n.exponent.isSome
  short : n.spelled < 10 ^ 15
  value : n.spelled * (10 : ℚ) ^ n.place = x.value

theorem Spells.positive {n : Numeral} {x : Decimal} (h : Spells n x) (hx : 0 < x.digits) :
    0 < n.spelled := by
  rw [Nat.pos_iff_ne_zero]
  intro hzero
  have hvalue := h.value
  have hpos : (0 : ℚ) < x.value := by
    have : (0 : ℚ) < x.digits := by exact_mod_cast hx
    unfold Decimal.value
    positivity
  rw [hzero, Nat.cast_zero, zero_mul] at hvalue
  exact hpos.ne hvalue

variable {x : Decimal} {ds : Text} {zeros : Nat}

/-- The number of digits in front of the zeros at the end. -/
theorem Digits.small (h : Digits x ds zeros) (hx : 0 < x.digits) :
    Nat.ofDigitChars 10 ds 0 < 10 ^ ds.length := by
  obtain ⟨k, hk, -, hlt⟩ := BinaryFormat.length_ofNat hx
  rw [← hk, h.all, List.length_append, List.length_replicate, Nat.pow_add] at hlt
  refine Nat.lt_of_mul_lt_mul_right (a := 10 ^ zeros) ?_
  exact h.number.symm ▸ hlt

theorem Digits.value (h : Digits x ds zeros) :
    x.value = Nat.ofDigitChars 10 ds 0 * (10 : ℚ) ^ (x.exponent + zeros) := by
  rw [Decimal.value, ← h.number, zpow_add₀ (by norm_num), zpow_natCast]
  push_cast
  ring

theorem Digits.length_le (h : Digits x ds zeros) (hshort : x.digits ≤ 10 ^ 9) : ds.length ≤ 10 := by
  have hle : (Text.ofNat x.digits).length ≤ 10 :=
    (Nat.length_toDigits_le_iff (by decide) (by decide)).mpr (by omega)
  rw [h.all, List.length_append] at hle
  omega

theorem Digits.ne_nil (h : Digits x ds zeros) : ds ≠ [] := by
  obtain ⟨c, more, rfl, -⟩ := h.head
  exact List.cons_ne_nil c more

theorem ofDigitChars_zeros (k : Nat) (ds : Text) :
    Nat.ofDigitChars 10 (List.replicate k '0' ++ ds) 0 = Nat.ofDigitChars 10 ds 0 := by
  rw [Nat.ofDigitChars_append, Nat.ofDigitChars_replicate_zero, Nat.mul_zero]

theorem isDigit_zeros (k : Nat) : ∀ c ∈ List.replicate k '0', c.isDigit := by
  intro c hc
  rw [List.eq_of_mem_replicate hc]
  rfl

/-- A number below one, in the plain form. -/
theorem Digits.spells_below (h : Digits x ds zeros) (hx : 0 < x.digits)
    (hshort : x.digits ≤ 10 ^ 9) (negative : Bool) {k : Nat}
    (hplace : x.exponent + zeros = -(k + ds.length : Nat)) :
    Spells ⟨negative, ['0'], List.replicate k '0' ++ ds, none⟩ x := by
  have hlength := h.length_le hshort
  have hspelled : Nat.ofDigitChars 10 (['0'] ++ (List.replicate k '0' ++ ds)) 0 =
      Nat.ofDigitChars 10 ds 0 := by
    rw [List.singleton_append, ← List.cons_append, ← List.replicate_succ, ofDigitChars_zeros]
  refine ⟨⟨⟨by simp, by simp⟩, fun _ => rfl, ?_, by simp⟩, .inl (by simp [h.ne_nil]), ?_, ?_⟩
  · intro c hc
    rcases List.mem_append.mp hc with hc | hc
    · exact isDigit_zeros k c hc
    · exact h.digits c hc
  · unfold Numeral.spelled
    rw [hspelled]
    exact Nat.lt_of_lt_of_le (h.small hx) (Nat.pow_le_pow_right (by decide) (by omega))
  · unfold Numeral.spelled Numeral.place Numeral.writtenExponent
    rw [hspelled, h.value, hplace]
    simp

theorem Digits.proper_plain (h : Digits x ds zeros) (negative : Bool) {places : Nat}
    (hpos : 0 < places) :
    Numeral.Proper ⟨negative, ds.take places ++ List.replicate (places - ds.length) '0',
      if ds.drop places = [] then ['0'] else ds.drop places, none⟩ := by
  obtain ⟨c, more, hds, hc⟩ := h.head
  refine ⟨⟨?_, ?_⟩, ?_, ?_, by simp⟩
  · simp [h.ne_nil, hpos.ne']
  · intro d hd
    rcases List.mem_append.mp hd with hd | hd
    · exact h.digits d (List.mem_of_mem_take hd)
    · exact isDigit_zeros _ d hd
  · intro hzero
    obtain ⟨p, rfl⟩ := Nat.exists_eq_succ_of_ne_zero hpos.ne'
    rw [hds] at hzero
    exact absurd (Option.some.inj hzero) hc
  · intro d hd
    dsimp only at hd
    split at hd
    · rw [List.mem_singleton.mp hd]
      rfl
    · exact h.digits d (List.mem_of_mem_drop hd)

/-- A number from one on, in the plain form. The digits end in front of the point, and a zero stands
behind it. -/
theorem Digits.spells_whole (h : Digits x ds zeros) (hx : 0 < x.digits) (negative : Bool)
    {places : Nat} (hpos : 0 < places) (hsmall : places ≤ 13)
    (hplace : x.exponent + zeros = places - ds.length) (hle : ds.length ≤ places) :
    Spells ⟨negative, ds.take places ++ List.replicate (places - ds.length) '0', ['0'], none⟩ x := by
  have hproper := h.proper_plain negative hpos
  rw [if_pos (List.drop_eq_nil_of_le hle)] at hproper
  have hspelled : Nat.ofDigitChars 10 ((ds.take places ++
      List.replicate (places - ds.length) '0') ++ ['0']) 0 =
        10 ^ (places - ds.length + 1) * Nat.ofDigitChars 10 ds 0 := by
    have hzeros : ['0'] = List.replicate 1 '0' := rfl
    rw [List.take_of_length_le hle, List.append_assoc, hzeros, List.replicate_append_replicate,
      Nat.ofDigitChars_append, Nat.ofDigitChars_replicate_zero]
  refine ⟨hproper, .inl (by simp), ?_, ?_⟩
  · unfold Numeral.spelled
    rw [hspelled]
    calc 10 ^ (places - ds.length + 1) * Nat.ofDigitChars 10 ds 0
        < 10 ^ (places - ds.length + 1) * 10 ^ ds.length :=
          Nat.mul_lt_mul_of_pos_left (h.small hx) (Nat.pow_pos (by decide))
      _ = 10 ^ (places + 1) := by
          rw [← Nat.pow_add]
          congr 1
          omega
      _ ≤ 10 ^ 15 := Nat.pow_le_pow_right (by decide) (by omega)
  · have hsplit : x.exponent + zeros = (places - ds.length + 1 : Nat) + (0 - 1) := by omega
    unfold Numeral.spelled Numeral.place Numeral.writtenExponent
    rw [hspelled, h.value, hsplit, zpow_add₀ (by norm_num), zpow_natCast]
    simp only [List.length_singleton]
    push_cast
    ring

/-- A number from one on, in the plain form. Some of its digits stand behind the point. -/
theorem Digits.spells_parts (h : Digits x ds zeros) (hx : 0 < x.digits) (hshort : x.digits ≤ 10 ^ 9)
    (negative : Bool) {places : Nat} (hpos : 0 < places)
    (hplace : x.exponent + zeros = places - ds.length) (hlt : places < ds.length) :
    Spells ⟨negative, ds.take places ++ List.replicate (places - ds.length) '0',
      ds.drop places, none⟩ x := by
  have hlength := h.length_le hshort
  have hdrop : ds.drop places ≠ [] := by simpa using hlt
  have hproper := h.proper_plain negative hpos
  rw [if_neg hdrop] at hproper
  have hspelled : (ds.take places ++ List.replicate (places - ds.length) '0') ++
      ds.drop places = ds := by
    rw [Nat.sub_eq_zero_of_le hlt.le, List.replicate_zero, List.append_nil,
      List.take_append_drop]
  refine ⟨hproper, .inl hdrop, ?_, ?_⟩
  · unfold Numeral.spelled
    rw [hspelled]
    exact Nat.lt_of_lt_of_le (h.small hx) (Nat.pow_le_pow_right (by decide) (by omega))
  · have hsplit : x.exponent + zeros = 0 - (ds.drop places).length := by
      rw [List.length_drop]
      omega
    unfold Numeral.spelled Numeral.place Numeral.writtenExponent
    rw [hspelled, h.value, hsplit]

/-- A number with its power of ten. -/
theorem Digits.spells_scientific (h : Digits x ds zeros) (hx : 0 < x.digits)
    (hshort : x.digits ≤ 10 ^ 9) (negative : Bool) {lead : Int}
    (hplace : x.exponent + zeros = lead + 1 - ds.length) :
    Spells ⟨negative, ds.take 1, ds.drop 1, some (lead < 0, Text.ofNat lead.natAbs)⟩ x := by
  have hlength := h.length_le hshort
  have hless := h.small hx
  obtain ⟨c, more, hds, hc⟩ := h.head
  have hspelled : ds.take 1 ++ ds.drop 1 = ds := List.take_append_drop 1 ds
  have hexponent : Nat.ofDigitChars 10 (Text.ofNat lead.natAbs) 0 = lead.natAbs :=
    Nat.ofDigitChars_ten_toDigits
  refine ⟨⟨⟨by simp [hds], ?_⟩, fun _ => by simp [hds], ?_, ?_⟩, .inr rfl, ?_, ?_⟩
  · exact fun d hd => h.digits d (List.mem_of_mem_take hd)
  · exact fun d hd => h.digits d (List.mem_of_mem_drop hd)
  · rintro e ⟨⟩
    exact ⟨Nat.toDigits_ne_nil, fun d hd => Nat.isDigit_of_mem_toDigits (by decide) (by decide) hd⟩
  · unfold Numeral.spelled
    rw [hspelled]
    exact Nat.lt_of_lt_of_le hless (Nat.pow_le_pow_right (by decide) (by omega))
  · have hplace' : Numeral.place ⟨negative, ds.take 1, ds.drop 1,
        some (lead < 0, Text.ofNat lead.natAbs)⟩ = x.exponent + zeros := by
      have hwritten : Numeral.writtenExponent ⟨negative, ds.take 1, ds.drop 1,
          some (lead < 0, Text.ofNat lead.natAbs)⟩ = lead := by
        unfold Numeral.writtenExponent
        by_cases hlead : lead < 0
        · simp only [hlead, decide_true, hexponent]
          omega
        · simp only [hlead, decide_false, hexponent]
          omega
      have hone : 1 ≤ ds.length := by simp [hds]
      unfold Numeral.place
      rw [hwritten, List.length_drop, hplace]
      omega
    unfold Numeral.spelled
    rw [hspelled, hplace', h.value]

/-- A decimal number whose digits make up at most `10 ^ 9` is spelled by its numeral. -/
theorem spells_numeral (hx : 0 < x.digits) (hshort : x.digits ≤ 10 ^ 9) (negative : Bool) :
    Spells (standard.numeral negative x) x := by
  obtain ⟨zeros, h⟩ := exists_digits hx
  have hlength : ((Text.ofNat x.digits).length : Int) = (digits x).length + zeros := by
    rw [h.all, List.length_append, List.length_replicate]
    push_cast
    rfl
  unfold numeral
  dsimp only
  rw [hlength]
  obtain ⟨lead, hlead⟩ : ∃ lead, x.exponent + ((digits x).length + zeros) - 1 = lead := ⟨_, rfl⟩
  rw [hlead]
  by_cases hplain : standard.leastPlain ≤ lead ∧ lead ≤ standard.greatestPlain
  · have hgreatest : lead ≤ 12 := hplain.2
    rw [if_pos hplain]
    by_cases hbelow : lead < 0
    · rw [if_pos hbelow]
      exact h.spells_below hx hshort negative (by omega)
    · rw [if_neg hbelow]
      rcases Nat.lt_or_ge (lead.toNat + 1) (digits x).length with hlt | hle
      · have hdrop : (digits x).drop (lead.toNat + 1) ≠ [] := by simpa using hlt
        rw [if_neg hdrop]
        exact h.spells_parts hx hshort negative (Nat.succ_pos _) (by omega) hlt
      · rw [if_pos (List.drop_eq_nil_of_le hle)]
        exact h.spells_whole hx negative (Nat.succ_pos _) (by omega) (by omega) hle
  · rw [if_neg hplain]
    exact h.spells_scientific hx hshort negative (by omega)

end Layout

end CueStream
