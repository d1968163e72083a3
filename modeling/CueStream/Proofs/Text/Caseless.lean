-- Lower case, character by character. The characters that belong to no word
-- stay as they are, and lower case has no lower case again. Only the capital
-- sigma looks at its neighbours; where the two small sigmas count as one, not
-- even that one does.
import CueStream.Text.Lowercase
import CueStream.Text.Word

namespace CueStream

open Unicode

namespace Unicode

/-! ## The runs of the table -/

/-- The letters of a run are letters of a word. Where the run leaves out places, they are looked at
one by one. -/
theorem letters_of_lowerRuns :
    (lowerRuns.all fun r =>
      ((alphanumericSpans.any fun s => Nat.ble s.1 r.first && Nat.ble r.last s.2) ||
        (List.range (r.last + 1 - r.first)).all fun i =>
          (r.image? (r.first + i)).isNone ||
            alphanumericSpans.any fun s => Nat.ble s.1 (r.first + i) && Nat.ble (r.first + i) s.2) &&
        Text.ideographSpans.all fun s => Nat.blt r.last s.1 || Nat.blt s.2 r.first) = true := by
  decide +kernel

/-- The lower-case forms of the run `r` are no letters of the run `q`: they lie before it, behind
it, or between its letters. -/
def LowerRun.misses (r q : LowerRun) : Bool :=
  Nat.blt (r.target + (r.last - r.first)) q.first || Nat.blt q.last r.target ||
    (Nat.beq r.first r.last || Nat.beq r.step 2) && Nat.beq q.step 2 &&
      Nat.beq ((r.target + q.first) % 2) 1

/-- The dotted capital I counts as a run of one letter here. -/
theorem misses_of_lowerRuns :
    (lowerRuns.all fun r => (⟨0x130, 0x130, 1, 0x69⟩ :: lowerRuns).all fun q => r.misses q) =
      true := by
  decide +kernel

theorem LowerRun.image?_eq_some_iff {r : LowerRun} {n m : Nat} :
    r.image? n = some m ↔ r.first ≤ n ∧ n ≤ r.last ∧ (n - r.first) % r.step = 0 ∧
      r.target + (n - r.first) = m := by
  unfold image?
  split
  · rename_i h
    simp [h]
  · rename_i h
    constructor
    · intro hm
      cases hm
    · rintro ⟨h1, h2, h3, -⟩
      exact absurd ⟨h1, h2, h3⟩ h

theorem LowerRun.image?_of_misses {r q : LowerRun} (h : r.misses q = true) {n m : Nat}
    (hm : r.image? n = some m) : q.image? m = none := by
  obtain ⟨hfirst, hlast, hstep, rfl⟩ := image?_eq_some_iff.mp hm
  cases hq : q.image? (r.target + (n - r.first)) with
  | none => rfl
  | some k =>
    obtain ⟨hf, hl, hs, -⟩ := image?_eq_some_iff.mp hq
    simp only [misses, Bool.or_eq_true, Bool.and_eq_true, Nat.blt_eq, Nat.beq_eq] at h
    rcases h with (h | h) | ⟨⟨h | h, hq2⟩, hodd⟩
    · omega
    · omega
    · rw [hq2] at hs
      omega
    · rw [h] at hstep
      rw [hq2] at hs
      omega

/-- The forms of one run are no letters of any run. -/
theorem image?_of_image? {r q : LowerRun} (hr : r ∈ lowerRuns)
    (hq : q ∈ (⟨0x130, 0x130, 1, 0x69⟩ : LowerRun) :: lowerRuns) {n m : Nat}
    (hm : r.image? n = some m) : q.image? m = none := by
  have h := List.all_eq_true.mp misses_of_lowerRuns r hr
  exact LowerRun.image?_of_misses (List.all_eq_true.mp h q hq) hm

/-! ## The form of a character -/

theorem lowerForm_ne_nil (c : Char) : lowerForm c ≠ [] := by
  unfold lowerForm
  split
  · simp
  · split
    · simp
    · split <;> simp

/-- A character has no form of its own, or it is the dotted capital I, or a letter of a run. -/
theorem lowerForm_cases (c : Char) :
    lowerForm c = [c] ∨ c = '\u0130' ∨
      ∃ r ∈ lowerRuns, ∃ n, r.image? c.toNat = some n ∧ lowerForm c = [Char.ofNat n] := by
  by_cases hascii : c.toNat < 0x80
  · have hall : ∀ n < 0x80, lowerForm (Char.ofNat n) = [Char.ofNat n] ∨
        0x41 ≤ n ∧ n ≤ 0x5A ∧ lowerForm (Char.ofNat n) = [Char.ofNat (0x61 + (n - 0x41))] := by
      decide
    have hc := hall c.toNat hascii
    rw [Char.ofNat_toNat] at hc
    rcases hc with hc | ⟨hfirst, hlast, hc⟩
    · exact .inl hc
    · refine .inr (.inr ⟨⟨0x41, 0x5A, 1, 0x61⟩, List.mem_cons_self, _, ?_, hc⟩)
      exact LowerRun.image?_eq_some_iff.mpr ⟨hfirst, hlast, Nat.mod_one _, rfl⟩
  · by_cases hdotted : c = '\u0130'
    · exact .inr (.inl hdotted)
    · unfold lowerForm
      rw [if_neg hascii, if_neg hdotted]
      cases hn : lowerRuns.findSome? (·.image? c.toNat) with
      | none => exact .inl rfl
      | some n =>
        obtain ⟨r, hr, himage⟩ := List.exists_of_findSome?_eq_some hn
        exact .inr (.inr ⟨r, hr, n, himage, rfl⟩)

/-- A lower-case form has no other lower-case form. -/
theorem lowerForm_of_mem_lowerForm {c d : Char} (h : d ∈ lowerForm c) : lowerForm d = [d] := by
  rcases lowerForm_cases c with hc | rfl | ⟨r, hr, n, hn, hc⟩
  · rw [hc] at h
    rw [List.mem_singleton.mp h, hc]
  · have hall : (lowerForm '\u0130').all (fun d => decide (lowerForm d = [d])) = true := by
      decide
    exact of_decide_eq_true (List.all_eq_true.mp hall d h)
  · rw [hc] at h
    rw [List.mem_singleton.mp h]
    by_cases hvalid : n.isValidChar
    · have hnat : (Char.ofNat n).toNat = n := by
        rw [Char.ofNat, dif_pos hvalid]
        rfl
      rcases lowerForm_cases (Char.ofNat n) with hd | hd | ⟨q, hq, m, hm, -⟩
      · exact hd
      · -- the dotted capital I is the form of no letter
        have hmiss := image?_of_image? hr (q := ⟨0x130, 0x130, 1, 0x69⟩) List.mem_cons_self hn
        rw [← hnat, hd] at hmiss
        exact absurd hmiss (by decide)
      · rw [hnat, image?_of_image? hr (List.mem_cons_of_mem _ hq) hn] at hm
        cases hm
    · have hzero : Char.ofNat n = Char.ofNat 0 := by
        unfold Char.ofNat
        rw [dif_neg hvalid]
        rfl
      rw [hzero]
      decide

theorem isWordChar_of_image? {r : LowerRun} (hr : r ∈ lowerRuns) {c : Char} {n : Nat}
    (hn : r.image? c.toNat = some n) : Text.isWordChar c = true := by
  obtain ⟨hfirst, hlast, -, -⟩ := LowerRun.image?_eq_some_iff.mp hn
  have hletters := List.all_eq_true.mp letters_of_lowerRuns r hr
  rw [Bool.and_eq_true, Bool.or_eq_true] at hletters
  obtain ⟨hspan, hideographs⟩ := hletters
  have halphanumeric : isAlphanumeric c = true := by
    apply (within_eq_true_iff alphanumericSpans c).mpr
    rcases hspan with hspan | hspan
    · obtain ⟨s, hs, hbounds⟩ := List.any_eq_true.mp hspan
      rw [Bool.and_eq_true, Nat.ble_eq, Nat.ble_eq] at hbounds
      exact ⟨s, hs, by omega, by omega⟩
    · have hplace : r.first + (c.toNat - r.first) = c.toNat := by omega
      have hat := List.all_eq_true.mp hspan (c.toNat - r.first) (List.mem_range.mpr (by omega))
      rw [hplace, hn, Option.isNone_some, Bool.false_or] at hat
      obtain ⟨s, hs, hbounds⟩ := List.any_eq_true.mp hat
      rw [Bool.and_eq_true, Nat.ble_eq, Nat.ble_eq] at hbounds
      exact ⟨s, hs, hbounds⟩
  have hideograph : Text.isIdeograph c = false := by
    rw [← Bool.not_eq_true]
    intro hc
    obtain ⟨s, hs, hlow, hhigh⟩ := (within_eq_true_iff Text.ideographSpans c).mp hc
    have haside := List.all_eq_true.mp hideographs s hs
    rw [Bool.or_eq_true, Nat.blt_eq, Nat.blt_eq] at haside
    omega
  unfold Text.isWordChar
  rw [halphanumeric, hideograph]
  rfl

/-- A character that belongs to no word is its own lower-case form. -/
theorem lowerForm_of_not_isWordChar {c : Char} (h : Text.isWordChar c = false) :
    lowerForm c = [c] := by
  rcases lowerForm_cases c with hc | rfl | ⟨r, hr, n, hn, -⟩
  · exact hc
  · exact absurd h (by decide)
  · rw [isWordChar_of_image? hr hn] at h
    cases h

end Unicode

namespace Text

/-! ## The form of a text -/

/-- The two small sigmas, the one at the end of a word and the other, count as one. -/
def unify (c : Char) : Char :=
  if c = 'ς' then 'σ' else c

/-- The text with its case and the places of its sigmas left aside. -/
def caseless (t : Text) : Text :=
  t.flatMap fun c => (lowerForm c).map unify

@[simp]
theorem caseless_append (a b : Text) : caseless (a ++ b) = caseless a ++ caseless b :=
  List.flatMap_append

theorem isWordChar_unify (c : Char) : isWordChar (unify c) = isWordChar c := by
  unfold unify
  split
  · rename_i hc
    rw [hc]
    decide
  · rfl

theorem lowerIn_of_ne {c : Char} (h : c ≠ 'Σ') (before after : Text) :
    lowerIn before c after = lowerForm c := by
  unfold lowerIn
  rw [if_neg h]

/-- What the neighbours decide is which of the two small sigmas stands for the capital one. -/
theorem map_unify_lowerIn (before : Text) (c : Char) (after : Text) :
    (lowerIn before c after).map unify = (lowerForm c).map unify := by
  by_cases hc : c = 'Σ'
  · rw [hc]
    unfold lowerIn
    rw [if_pos rfl]
    split
    · decide
    · decide
  · rw [lowerIn_of_ne hc]

/-! ## Lower case between neighbours -/

/-- The lower-case form of a text that stands between two others. The one in front is given in
reverse. -/
def lowercaseBetween (before : Text) : Text → Text → Text
  | [], _ => []
  | c :: rest, after => lowerIn before c (rest ++ after) ++ lowercaseBetween (c :: before) rest after

theorem lowercase_eq (t : Text) : t.lowercase = lowercaseBetween [] t [] := by
  have hafter (before : Text) : lowercaseAfter before t = lowercaseBetween before t [] := by
    induction t generalizing before with
    | nil => rfl
    | cons c rest ih => rw [lowercaseAfter, lowercaseBetween, List.append_nil, ih]
  exact hafter []

/-- Each part is a neighbour of the other. -/
theorem lowercaseBetween_append (before a b after : Text) :
    lowercaseBetween before (a ++ b) after =
      lowercaseBetween before a (b ++ after) ++ lowercaseBetween (a.reverse ++ before) b after := by
  induction a generalizing before with
  | nil => rfl
  | cons c rest ih =>
    rw [List.cons_append, lowercaseBetween, ih, lowercaseBetween, List.reverse_cons]
    simp only [List.append_assoc, List.singleton_append]

/-- With one small sigma for both, the lower-case form of a text does not depend on neighbours. -/
theorem map_unify_lowercaseBetween (before t after : Text) :
    (lowercaseBetween before t after).map unify = t.caseless := by
  induction t generalizing before with
  | nil => rfl
  | cons c rest ih =>
    unfold lowercaseBetween caseless
    rw [List.map_append, map_unify_lowerIn, ih, List.flatMap_cons]
    rfl

theorem map_unify_lowercase (t : Text) : t.lowercase.map unify = t.caseless := by
  rw [lowercase_eq, map_unify_lowercaseBetween]

theorem length_lowercaseBetween (before t after : Text) :
    (lowercaseBetween before t after).length = t.caseless.length := by
  rw [← map_unify_lowercaseBetween before t after, List.length_map]

/-- A character that belongs to no word stays in the text. -/
theorem mem_lowercase_of_not_isWordChar {t : Text} {c : Char} (hc : isWordChar c = false)
    (h : c ∈ t) : c ∈ t.lowercase := by
  obtain ⟨a, b, rfl⟩ := List.append_of_mem h
  have hsigma : c ≠ 'Σ' := by
    rintro rfl
    exact absurd hc (by decide)
  rw [lowercase_eq, lowercaseBetween_append, lowercaseBetween, lowerIn_of_ne hsigma,
    lowerForm_of_not_isWordChar hc]
  simp

/-! ## What is in lower case -/

theorem lowercase_eq_nil_iff (t : Text) : t.lowercase = [] ↔ t = [] := by
  constructor
  · intro h
    have hmap := map_unify_lowercase t
    rw [h] at hmap
    unfold caseless at hmap
    cases t with
    | nil => rfl
    | cons c rest =>
      rw [List.flatMap_cons] at hmap
      have hnil := (List.append_eq_nil_iff.mp hmap.symm).1
      exact absurd (List.map_eq_nil_iff.mp hnil) (lowerForm_ne_nil c)
  · rintro rfl
    rfl

theorem lowercase_ne_nil {t : Text} (h : t ≠ []) : t.lowercase ≠ [] :=
  fun hn => h ((lowercase_eq_nil_iff t).mp hn)

/-- The lower-case form of a text without the capital sigma does not depend on neighbours either. -/
theorem lowercase_of_not_mem {t : Text} (h : 'Σ' ∉ t) : t.lowercase = t.flatMap lowerForm := by
  have hafter (before : Text) : lowercaseAfter before t = t.flatMap lowerForm := by
    induction t generalizing before with
    | nil => rfl
    | cons c rest ih =>
      rw [List.mem_cons, not_or] at h
      unfold lowercaseAfter
      rw [lowerIn_of_ne (Ne.symm h.1), ih h.2, List.flatMap_cons]
  exact hafter []

theorem lowerForm_of_mem_lowercase {t : Text} {d : Char} (h : d ∈ t.lowercase) :
    lowerForm d = [d] := by
  have hafter (before u : Text) (h : d ∈ lowercaseAfter before u) : lowerForm d = [d] := by
    induction u generalizing before with
    | nil => cases h
    | cons c rest ih =>
      unfold lowercaseAfter at h
      rcases List.mem_append.mp h with h | h
      · by_cases hc : c = 'Σ'
        · unfold lowerIn at h
          rw [if_pos hc] at h
          split at h
          · rw [List.mem_singleton.mp h]
            decide
          · rw [List.mem_singleton.mp h]
            decide
        · rw [lowerIn_of_ne hc] at h
          exact lowerForm_of_mem_lowerForm h
      · exact ih _ h
  exact hafter [] t h

/-- A text all of whose characters are their own lower-case forms is in lower case. -/
theorem lowercase_eq_self {t : Text} (h : ∀ c ∈ t, lowerForm c = [c]) : t.lowercase = t := by
  have hsigma : 'Σ' ∉ t := by
    intro hm
    exact absurd (h 'Σ' hm) (by decide)
  rw [lowercase_of_not_mem hsigma]
  induction t with
  | nil => rfl
  | cons c rest ih =>
    rw [List.flatMap_cons, h c List.mem_cons_self]
    rw [ih (fun d hd => h d (List.mem_cons_of_mem c hd))
      (fun hm => hsigma (List.mem_cons_of_mem c hm))]
    rfl

/-- Whatever is cut out of a lower-case form is in lower case. -/
theorem lowercase_of_infix {t u : Text} (h : t <:+: u.lowercase) : t.lowercase = t :=
  lowercase_eq_self fun _ hc => lowerForm_of_mem_lowercase (h.subset hc)

end Text

end CueStream
