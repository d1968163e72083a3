-- A number of single precision that is written down is read back as the same
-- number, though it is read by way of double precision.
import CueStream.Proofs.Number.Drift
import CueStream.Proofs.Number.Middle

namespace CueStream

open BinaryFormat Middle

variable {s k m : Nat} {x : Decimal}

/-! ## Powers of ten in what is written -/

/-- A power of five in a number below `5 ^ j` is a smaller one. -/
theorem lt_of_five_dvd {w i j : Nat} (hw : 0 < w) (hlt : w < 5 ^ j) (h : 5 ^ i ∣ w) : i < j :=
  (Nat.pow_lt_pow_iff_right (by decide)).mp (Nat.lt_of_le_of_lt (Nat.le_of_dvd hw h) hlt)

theorem five_dvd_of_tens {w i p q : Nat} (h : w * 2 ^ p = m * 2 ^ q * 10 ^ i) : 5 ^ i ∣ w := by
  have hcoprime : Nat.Coprime (5 ^ i) (2 ^ p) := Nat.Coprime.pow _ _ (by decide)
  refine hcoprime.dvd_of_dvd_mul_right ?_
  rw [h, show 10 = 5 * 2 from rfl, Nat.mul_pow]
  exact Dvd.dvd.mul_left (Dvd.intro _ rfl) _

/-- What is written for a middle has a small power of ten. -/
theorem place_of_tie {w : Nat} {e : Int} (hw : 0 < w) (hshort : w < 10 ^ 15) (hm : 0 < m)
    (hmlt : m < 2 ^ 25) (h : (w * 10 ^ e * 2 ^ 149 : ℚ) = m * (2 ^ k / 2)) : e.natAbs ≤ 22 := by
  have hscaled : (w * 10 ^ e * 2 ^ 150 : ℚ) = m * 2 ^ k := by
    rw [pow_succ]
    linarith
  rcases Int.le_total 0 e with he | he
  · obtain ⟨j, rfl⟩ := Int.eq_ofNat_of_zero_le he
    have hnat : m * 2 ^ k = w * 2 ^ 150 * 10 ^ j := by
      rw [zpow_natCast] at hscaled
      have hcast : (m * 2 ^ k : ℚ) = w * 2 ^ 150 * 10 ^ j := by linarith
      exact_mod_cast hcast
    have := lt_of_five_dvd hm (j := 11) (by omega) (five_dvd_of_tens hnat)
    omega
  · obtain ⟨j, rfl⟩ := Int.exists_eq_neg_ofNat he
    have hnat : w * 2 ^ 150 = m * 2 ^ k * 10 ^ j := by
      rw [zpow_neg, zpow_natCast] at hscaled
      field_simp at hscaled
      have hcast : (w * 2 ^ 150 : ℚ) = m * 2 ^ k * 10 ^ j := by linarith
      exact_mod_cast hcast
    have := lt_of_five_dvd hw (j := 22) (by omega) (five_dvd_of_tens hnat)
    omega

/-- What is written for a number of single precision has no large power of ten. -/
theorem place_le {w : Nat} {e : Int} {v : ℚ} (hw : 0 < w) (hshort : w < 10 ^ 15)
    (hv : w * 10 ^ e * 2 ^ 149 = v) (hlow : 1 / 2 ≤ v) (hhigh : v ≤ 10 ^ 100) :
    e.natAbs ≤ 60 := by
  have hone : (1 : ℚ) ≤ w := by exact_mod_cast hw
  have hmost : (w : ℚ) ≤ 10 ^ 15 := by exact_mod_cast hshort.le
  have hten : (0 : ℚ) < 10 ^ e := by positivity
  have hleast : (10 : ℚ) ^ e ≤ w * 10 ^ e := le_mul_of_one_le_left hten.le hone
  have hgreatest : (w * 10 ^ e : ℚ) ≤ 10 ^ 15 * 10 ^ e := mul_le_mul_of_nonneg_right hmost hten.le
  rw [← hv] at hlow hhigh
  have hless : (10 : ℚ) ^ e < 10 ^ (61 : Int) := by
    rw [show (10 : ℚ) ^ (61 : Int) = 10 ^ 61 from zpow_natCast 10 61]
    linarith
  have hmore : (10 : ℚ) ^ (-61 : Int) < 10 ^ e := by
    rw [show (10 : ℚ) ^ (-61 : Int) = 1 / 10 ^ 61 by norm_num]
    linarith
  have hless := (zpow_lt_zpow_iff_right₀ (by norm_num)).mp hless
  have hmore := (zpow_lt_zpow_iff_right₀ (by norm_num)).mp hmore
  omega

/-! ## Reading by way of double precision -/

/-- What is read for something that stays clear of the middles lies nearer to the number than to
them. -/
theorem near_of_clear {v y : ℚ} (hunits : (s : ℚ) + single.half s ≤ 2 ^ 25 * single.half s)
    (hclear : |v - s| ≤ (1 - margin) * single.half s) (hread : |y - v| ≤ v * Numeral.drift) :
    single.Near s y := by
  have hhalf : 0 < single.half s := by
    rw [half_eq]
    positivity
  have hmargin : 0 < margin := by norm_num [margin]
  have hless : 2 ^ 25 * Numeral.drift < margin := by norm_num [margin, Numeral.drift]
  have hpositive : 0 ≤ Numeral.drift := by norm_num [Numeral.drift]
  refine near_of_close ?_
  generalize single.half s = u at *
  have hv : v ≤ 2 ^ 25 * u := by
    have := mul_pos hmargin hhalf
    linarith [(abs_sub_le_iff.mp hclear).1]
  have hdrift : v * Numeral.drift < margin * u := by
    calc v * Numeral.drift ≤ 2 ^ 25 * u * Numeral.drift := mul_le_mul_of_nonneg_right hv hpositive
      _ = 2 ^ 25 * Numeral.drift * u := by ring
      _ < margin * u := mul_lt_mul_of_pos_right hless hhalf
  calc |y - s| ≤ |y - v| + |v - s| := abs_sub_le y v s
    _ < margin * u + (1 - margin) * u := add_lt_add_of_lt_of_le (hread.trans_lt hdrift) hclear
    _ = u := by ring

/-- A quotient as a number, once it is known what it is rounded to. -/
theorem ofQuotient_of_round? {negative : Bool} {num den : Nat} {rounded : Option Nat}
    (h : single.round? num den = rounded) :
    Single.ofQuotient negative num den = rounded.elim (.infinite negative) (.finite negative) := by
  -- unfolded as a function: applied to its arguments it would be evaluated
  have hdef := Eq.refl Single.ofQuotient
  conv at hdef =>
    rhs
    delta Single.ofQuotient
  rw [hdef]
  beta_reduce
  rw [h]
  cases rounded <;> rfl

/-- A numeral with a point or a power of ten is read as what its double is rounded to. -/
theorem single?_of_round {n : Numeral} {steps : Nat} (hpoint : n.fraction ≠ [] ∨ n.exponent.isSome)
    (hread : n.double? = some ⟨n.negative, steps⟩)
    (hround : single.round? steps (twos double.scale) = some s) :
    n.single? = some (.finite n.negative s) := by
  have hint : n.int? = none := by rw [Numeral.int?, if_pos hpoint]
  have hsingle : Double.toSingle ⟨n.negative, steps⟩ = .finite n.negative s :=
    ofQuotient_of_round? hround
  rw [Numeral.single?, hint, hread]
  exact congrArg some hsingle

/-- A numeral that is neither too large nor too small is read as a double that is a little off. -/
theorem exists_drifted {n : Numeral} (hspells : Layout.Spells n x) (hx : 0 < x.digits)
    (hlow : 1 / 2 ≤ x.value * 2 ^ 149) (hhigh : x.value * 2 ^ 149 ≤ 10 ^ 100) :
    ∃ steps : Nat, n.double? = some ⟨n.negative, steps⟩ ∧
      |(steps * 2 ^ 149 / 2 ^ double.scale : ℚ) - x.value * 2 ^ 149| ≤
        x.value * 2 ^ 149 * Numeral.drift := by
  have hvalue : n.spelled * 10 ^ n.place * 2 ^ 149 = x.value * 2 ^ 149 := by rw [hspells.value]
  have hplace := place_le (hspells.positive hx) hspells.short hvalue hlow hhigh
  obtain ⟨steps, hread, hnear⟩ := Numeral.exists_double (hspells.positive hx)
    (Nat.lt_trans hspells.short (by decide)) hplace
  have hratio : (0 : ℚ) < 2 ^ 149 / 2 ^ double.scale := by positivity
  have hscaled := mul_le_mul_of_nonneg_right hnear hratio.le
  rw [← abs_of_pos hratio, ← abs_mul, abs_of_pos hratio] at hscaled
  have hoff : (steps * 2 ^ 149 / 2 ^ double.scale - x.value * 2 ^ 149 : ℚ) =
      (steps - n.spelled * 10 ^ n.place * 2 ^ double.scale) * (2 ^ 149 / 2 ^ double.scale) := by
    rw [← hvalue]
    field_simp
  have hshare : x.value * 2 ^ 149 * Numeral.drift = n.spelled * 10 ^ n.place *
      2 ^ double.scale * Numeral.drift * (2 ^ 149 / 2 ^ double.scale) := by
    rw [← hvalue]
    field_simp
  refine ⟨steps, hread, ?_⟩
  rw [hoff, hshare]
  exact hscaled

/-- A middle is read as it is. -/
theorem exists_exact {n : Numeral} (hspells : Layout.Spells n x) (hx : 0 < x.digits) (hm : 0 < m)
    (hmlt : m < 2 ^ 25) (hk : k < 254) (htie : x.value * 2 ^ 149 = m * (2 ^ k / 2)) :
    ∃ steps : Nat, n.double? = some ⟨n.negative, steps⟩ ∧
      (steps * 2 ^ 149 / 2 ^ double.scale : ℚ) = x.value * 2 ^ 149 := by
  have hvalue : n.spelled * 10 ^ n.place * 2 ^ 149 = x.value * 2 ^ 149 := by rw [hspells.value]
  have hscaled := hvalue.trans htie
  have hplace := place_of_tie (hspells.positive hx) hspells.short hm hmlt hscaled
  have hleast := le_double_scale
  have hmost := le_double_limit
  have hprecision : double.precision = 53 := rfl
  have hfits : double.Fits (m * twos (k + (double.scale - 150))) :=
    fits_mul_twos (hmlt.trans (by decide)) (by omega)
  have hsum : k + (double.scale - 150) + 150 = k + double.scale := by omega
  have hsplit : (2 : ℚ) ^ (k + (double.scale - 150)) * (2 ^ 149 * 2) = 2 ^ k * 2 ^ double.scale := by
    rw [← pow_succ, ← pow_add, hsum, pow_add]
  have hexact : n.spelled * 10 ^ n.place * 2 ^ double.scale =
      ((m * twos (k + (double.scale - 150)) : Nat) : ℚ) := by
    push_cast [cast_twos]
    refine mul_right_cancel₀ (show (2 ^ 149 * 2 : ℚ) ≠ 0 by positivity) ?_
    rw [mul_assoc (m : ℚ), hsplit]
    linear_combination 2 * 2 ^ double.scale * hscaled
  refine ⟨_, Numeral.double?_exact (Nat.lt_trans hspells.short (by decide)) hplace hfits hexact, ?_⟩
  rw [← hexact, ← hvalue]
  field_simp

/-! ## The numbers inside a size -/

/-- How large half a unit is. -/
structure Halved (s : Nat) : Prop where
  least : 1 / 2 ≤ single.half s
  greatest : single.half s ≤ 2 ^ 252
  below : 2 * single.half s ≤ s
  above : s + single.half s ≤ 2 ^ 25 * single.half s

theorem halved (hfits : single.Fits s) (hinner : single.Inner s) (hs : 0 < s) : Halved s := by
  obtain ⟨m, hm, hmpos, hmlt, -, hk⟩ := exists_units hfits hinner hs
  have hone : (1 : ℚ) ≤ m := by exact_mod_cast hmpos
  have hmost : (m : ℚ) + 1 ≤ 2 ^ 24 := by exact_mod_cast hmlt
  have hunits : (s : ℚ) = m * 2 ^ single.slack s := by
    conv_lhs => rw [hm]
    push_cast [cast_twos]
    rfl
  have hunit : (1 : ℚ) ≤ 2 ^ single.slack s := one_le_pow₀ (by norm_num)
  have hgreatest : (2 : ℚ) ^ single.slack s ≤ 2 ^ 253 :=
    pow_le_pow_right₀ (by norm_num) (by omega)
  constructor <;> rw [half_eq]
  · linarith
  · rw [div_le_iff₀ (by norm_num)]
    exact hgreatest.trans (by norm_num)
  · rw [hunits]
    linarith [mul_le_mul_of_nonneg_right hone (zero_le_one.trans hunit)]
  · rw [hunits]
    linarith [mul_le_mul_of_nonneg_right hmost (zero_le_one.trans hunit)]

/-- The numeral of a number is read as a double that lies near to the number. -/
theorem exists_near_double {n : Numeral} (hspells : Layout.Spells n x) (hnames : Names x s)
    (hfits : single.Fits s) (hinner : single.Inner s) (hs : 0 < s) (hlone : s ∉ besideLone) :
    ∃ steps : Nat, n.double? = some ⟨n.negative, steps⟩ ∧
      single.Near s (steps * 2 ^ 149 / 2 ^ double.scale) := by
  have hhalved := halved hfits hinner hs
  have hlow : 1 / 2 ≤ x.value * 2 ^ 149 := by
    linarith [hnames.near.low, hhalved.least, hhalved.below]
  have hhigh : x.value * 2 ^ 149 ≤ 10 ^ 100 := by
    have hgreatest : (2 ^ 25 * 2 ^ 252 : ℚ) ≤ 10 ^ 100 := by norm_num
    linarith [hnames.near.high, hhalved.greatest, hhalved.above]
  rcases hnames.tie_or_clear hfits hinner hs hlone with hclear | ⟨m, hm, hmlt, htie⟩
  · obtain ⟨steps, hread, hdrift⟩ := exists_drifted hspells hnames.positive hlow hhigh
    exact ⟨steps, hread, near_of_clear hhalved.above hclear hdrift⟩
  · -- of the two numbers beside a middle the even one was written down as that middle
    obtain ⟨-, -, -, -, -, hk⟩ := exists_units hfits hinner hs
    rw [half_eq] at htie
    obtain ⟨steps, hread, hexact⟩ := exists_exact hspells hnames.positive hm hmlt hk htie
    exact ⟨steps, hread, hexact ▸ hnames.near⟩

theorem negative_numeral (l : Layout) (negative : Bool) (x : Decimal) :
    (l.numeral negative x).negative = negative := by
  unfold Layout.numeral
  dsimp only
  split_ifs <;> rfl

/-- A number that is not the least one of its size comes back. -/
theorem single?_of_inner (negative : Bool) (hfits : single.Fits s) (hinner : single.Inner s)
    (hs : 0 < s) (hlone : s ∉ besideLone) :
    (Layout.standard.numeral negative (single.shortest s)).single? =
      some (.finite negative s) := by
  have hnames := names_shortest hfits hinner hs
  have hspells := Layout.spells_numeral hnames.positive hnames.short negative
  obtain ⟨steps, hread, hnear⟩ := exists_near_double hspells hnames hfits hinner hs hlone
  have hround : single.round? steps (twos double.scale) = some s := by
    refine round?_eq_of_near (by decide) (twos_pos _) hfits hinner ?_
    rw [cast_twos, single_scale]
    exact hnear
  have hback := single?_of_round hspells.point hread hround
  rwa [negative_numeral] at hback

/-! ## The least number of a size -/

/-- A decimal number of few digits that stays clear of both middles beside `2 ^ (j + 24)`. The middle
above is `2 ^ j` away and the one below half of that; it keeps a 256th of `2 ^ j` from either. -/
structure ClearOfLeast (x : Decimal) (j : Nat) : Prop where
  positive : 0 < x.digits
  short : x.digits ≤ 10 ^ 9
  low : tens (-x.exponent).toNat * twos j * (2 ^ 32 - 127) ≤
    256 * (x.digits * tens x.exponent.toNat * twos 149)
  high : 256 * (x.digits * tens x.exponent.toNat * twos 149) ≤
    tens (-x.exponent).toNat * twos j * (2 ^ 32 + 255)

instance (x : Decimal) (j : Nat) : Decidable (ClearOfLeast x j) :=
  decidable_of_iff
    (0 < x.digits ∧ x.digits ≤ 10 ^ 9 ∧
      tens (-x.exponent).toNat * twos j * (2 ^ 32 - 127) ≤
        256 * (x.digits * tens x.exponent.toNat * twos 149) ∧
      256 * (x.digits * tens x.exponent.toNat * twos 149) ≤
        tens (-x.exponent).toNat * twos j * (2 ^ 32 + 255))
    ⟨fun ⟨hp, hs, hl, hh⟩ => ⟨hp, hs, hl, hh⟩, fun ⟨hp, hs, hl, hh⟩ => ⟨hp, hs, hl, hh⟩⟩

theorem shortest_clear_of_least : ∀ j < 253, ClearOfLeast (single.shortest (twos (j + 24))) j := by
  decide +kernel

/-- How near that is, in steps. -/
theorem ClearOfLeast.near {j : Nat} (h : ClearOfLeast x j) :
    2 ^ j * (2 ^ 32 - 127) ≤ 256 * (x.value * 2 ^ 149) ∧
      256 * (x.value * 2 ^ 149) ≤ 2 ^ j * (2 ^ 32 + 255) := by
  obtain ⟨-, -, hlow, hhigh⟩ := h
  have hpos : (0 : ℚ) < tens (-x.exponent).toNat := by exact_mod_cast tens_pos _
  have hvalue : 256 * (x.value * 2 ^ 149) =
      (256 * (x.digits * tens x.exponent.toNat * twos 149) : Nat) / tens (-x.exponent).toNat := by
    rw [Decimal.value, zpow_eq_tens]
    push_cast [cast_twos]
    ring
  rw [← Nat.cast_le (α := ℚ)] at hlow hhigh
  rw [hvalue, le_div_iff₀ hpos, div_le_iff₀ hpos]
  push_cast [cast_twos] at *
  constructor <;> linarith

theorem fits_least {j : Nat} (hj : j < 253) : single.Fits (twos (j + 24)) := by
  have hsplit : twos (j + 24) = 2 ^ 23 * twos (j + 1) := by
    rw [show j + 24 = 23 + (j + 1) by omega, twos_add]
    rfl
  have hlimit : single.precision + (j + 1) ≤ single.scale + single.limit := by
    show 24 + (j + 1) ≤ 277
    omega
  rw [hsplit]
  exact fits_mul_twos (by decide) hlimit

theorem half_least (j : Nat) : single.half (twos (j + 24)) = 2 ^ j := by
  have hless : twos (j + 24) < twos (j + 1 + 24) := twos_lt_iff.mpr (by omega)
  have hslack : single.slack (twos (j + 24)) = j + 1 := single.slack_eq hless (.inr (Nat.le_refl _))
  rw [half_eq, hslack, pow_succ, mul_div_cancel_right₀ _ (by norm_num)]

/-- The least number of a size comes back. -/
theorem single?_of_least (negative : Bool) {j : Nat} (hj : j < 253) :
    (Layout.standard.numeral negative (single.shortest (twos (j + 24)))).single? =
      some (.finite negative (twos (j + 24))) := by
  have hclear := shortest_clear_of_least j hj
  have hspells := Layout.spells_numeral hclear.positive hclear.short negative
  obtain ⟨hlow, hhigh⟩ := hclear.near
  have hunit : (1 : ℚ) ≤ 2 ^ j := one_le_pow₀ (by norm_num)
  have hmost : (2 : ℚ) ^ j ≤ 2 ^ 252 := pow_le_pow_right₀ (by norm_num) (by omega)
  obtain ⟨steps, hread, hdrift⟩ := exists_drifted hspells hclear.positive
    (by linarith) (by linarith)
  obtain ⟨habove, hbelow⟩ := abs_sub_le_iff.mp hdrift
  have hround : single.round? steps (twos double.scale) = some (twos (j + 24)) := by
    refine round?_eq_of_near_least (by decide) (twos_pos _) rfl (fits_least hj) ?_ ?_ <;>
      rw [half_least, cast_twos, cast_twos, single_scale, pow_add]
    · unfold Numeral.drift at *
      linarith
    · unfold Numeral.drift at *
      linarith
  have hback := single?_of_round hspells.point hread hround
  rwa [negative_numeral] at hback

/-! ## Every number -/

/-- Zero and the two numbers beside the lone middle come back. -/
theorem single?_of_lone :
    ∀ s ∈ 0 :: besideLone, ∀ negative,
      (Layout.standard.numeral negative (single.shortest s)).single? =
        some (.finite negative s) := by
  decide +kernel

/-- The least number of a size is a power of two. -/
theorem twos_of_not_inner (hfits : single.Fits s) (h : ¬ single.Inner s) :
    ∃ j < 253, s = twos (j + 24) := by
  obtain ⟨hunit, hle⟩ := not_or.mp h
  have hge : twos (single.slack s - 1 + 24) ≤ s := single.le_of_slack (Nat.pos_of_ne_zero hunit)
  have hsame : s = twos (single.slack s - 1 + 24) := Nat.le_antisymm (Nat.le_of_not_lt hle) hge
  have hsmall : twos (single.slack s - 1 + 24) < twos 277 := Nat.lt_of_le_of_lt hge hfits.small
  have hlog := twos_lt_iff.mp hsmall
  exact ⟨single.slack s - 1, by omega, hsame⟩

/-- A number of single precision that is written down is read back as the same number. -/
theorem single?_numeral (negative : Bool) (hfits : single.Fits s) :
    (Layout.standard.numeral negative (single.shortest s)).single? =
      some (.finite negative s) := by
  by_cases hlone : s ∈ 0 :: besideLone
  · exact single?_of_lone s hlone negative
  rw [List.mem_cons, not_or] at hlone
  by_cases hinner : single.Inner s
  · exact single?_of_inner negative hfits hinner (Nat.pos_of_ne_zero hlone.1) hlone.2
  · obtain ⟨j, hj, hs⟩ := twos_of_not_inner hfits hinner
    rw [hs]
    exact single?_of_least negative hj

/-- A number that is not zero is written down with few digits. -/
theorem short_shortest (hfits : single.Fits s) (hs : 0 < s) :
    0 < (single.shortest s).digits ∧ (single.shortest s).digits ≤ 10 ^ 9 := by
  by_cases hinner : single.Inner s
  · have hnames := names_shortest hfits hinner hs
    exact ⟨hnames.positive, hnames.short⟩
  · obtain ⟨j, hj, hs⟩ := twos_of_not_inner hfits hinner
    have hclear := shortest_clear_of_least j hj
    rw [hs]
    exact ⟨hclear.positive, hclear.short⟩

/-- What is written down is a numeral. -/
theorem proper_numeral (negative : Bool) (hfits : single.Fits s) :
    (Layout.standard.numeral negative (single.shortest s)).Proper := by
  rcases Nat.eq_zero_or_pos s with rfl | hs
  · have hzero : Layout.standard.numeral negative (single.shortest 0) =
        ⟨negative, ['0'], ['0'], none⟩ := by
      cases negative <;> decide
    rw [hzero]
    exact ⟨⟨by simp, by simp⟩, fun _ => rfl, by simp, by simp⟩
  · obtain ⟨hpositive, hshort⟩ := short_shortest hfits hs
    exact (Layout.spells_numeral hpositive hshort negative).proper

namespace Single

/-- A number of the format, or one that is too large for it. -/
def Proper (x : Single) : Prop :=
  ∀ negative steps, x = finite negative steps → single.Fits steps

theorem proper_ofQuotient (negative : Bool) (num : Nat) {den : Nat} (hden : 0 < den) :
    (ofQuotient negative num den).Proper := by
  intro sign steps h
  cases hround : single.round? num den with
  | none =>
    rw [ofQuotient_of_round? hround] at h
    cases h
  | some rounded =>
    rw [ofQuotient_of_round? hround] at h
    cases h
    exact fits_of_round? (by decide) hden hround

/-- Whatever is read as a number is one of the format, or too large for it. -/
theorem proper_of_single? {n : Numeral} {x : Single} (h : n.single? = some x) : x.Proper := by
  unfold Numeral.single? at h
  split at h
  · cases h
    exact proper_ofQuotient _ _ Nat.one_pos
  · obtain ⟨double, -, rfl⟩ := Option.map_eq_some_iff.mp h
    exact proper_ofQuotient _ _ (twos_pos _)

end Single

end CueStream
