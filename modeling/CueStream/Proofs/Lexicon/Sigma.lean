-- Keywords that stand in a text as they are spelled, and are not found. Text and
-- keyword are put into lower case one by one, and the form of a capital sigma
-- depends on its neighbours, which may lie outside of the keyword. A keyword is
-- found in all texts in which it stands exactly if each of its capital sigmas has
-- the neighbours that decide within the keyword.
import CueStream.Proofs.Lexicon.Best
import Mathlib.Data.List.TakeWhile

namespace CueStream

open Unicode

namespace Text

/-! ## Capital sigmas -/

/-- Every character is passed over when a neighbour with a case is looked for. -/
def PassedOver (t : Text) : Prop :=
  ∀ c ∈ t, isCaseIgnorable c = true

instance (t : Text) : Decidable (PassedOver t) :=
  decidable_of_iff (t.all isCaseIgnorable = true) List.all_eq_true

/-- A text that is passed over decides nothing. -/
theorem PassedOver.startsCased_append {t : Text} (h : PassedOver t) (u : Text) :
    startsCased (t ++ u) = startsCased u := by
  unfold startsCased
  rw [List.dropWhile_append_of_pos h]

theorem PassedOver.startsCased {t : Text} (h : PassedOver t) : startsCased t = false := by
  have happend := h.startsCased_append []
  rwa [List.append_nil] at happend

/-- Any other text decides alone. -/
theorem startsCased_append_of_not_passedOver {t : Text} (h : ¬ PassedOver t) (u : Text) :
    startsCased (t ++ u) = startsCased t := by
  have hstop : (t.dropWhile isCaseIgnorable).isEmpty = false := by
    rw [List.isEmpty_eq_false_iff]
    intro hnil
    exact h (List.dropWhile_eq_nil_iff.mp hnil)
  obtain ⟨c, rest, hrest⟩ := List.exists_cons_of_ne_nil (List.isEmpty_eq_false_iff.mp hstop)
  unfold startsCased
  rw [List.dropWhile_append, hstop, hrest]
  rfl

/-- A capital sigma between these two texts takes its form from what stands around both: it would be a
final sigma or not, depending on whether a letter stands in front of the first or behind the second.
The first one is given in reverse. -/
def Wavers (before after : Text) : Prop :=
  PassedOver before ∧ startsCased after = false ∨ startsCased before = true ∧ PassedOver after

instance (before after : Text) : Decidable (Wavers before after) :=
  inferInstanceAs (Decidable (_ ∨ _))

theorem lowerIn_sigma (before after : Text) :
    lowerIn before 'Σ' after = [if startsCased before && !startsCased after then 'ς' else 'σ'] := by
  unfold lowerIn
  rw [if_pos rfl]
  split <;> rfl

/-- A capital sigma that does not waver has the same form wherever it stands. -/
theorem lowerIn_sigma_append {before after : Text} (h : ¬ Wavers before after) (front rest : Text) :
    lowerIn (before ++ front) 'Σ' (after ++ rest) = lowerIn before 'Σ' after := by
  unfold Wavers at h
  rw [lowerIn_sigma, lowerIn_sigma]
  by_cases hbefore : PassedOver before
  · -- a letter follows, so it is no final sigma whatever stands in front
    have hafter : startsCased after = true := by
      rw [← Bool.not_eq_false]
      exact fun hno => h (.inl ⟨hbefore, hno⟩)
    have hdecides : ¬ PassedOver after := by
      intro hpassed
      rw [hpassed.startsCased] at hafter
      cases hafter
    rw [startsCased_append_of_not_passedOver hdecides, hafter]
    simp
  · rw [startsCased_append_of_not_passedOver hbefore]
    cases hcased : startsCased before with
    | false => rfl
    | true =>
      have hdecides : ¬ PassedOver after := fun hpassed => h (.inr ⟨hcased, hpassed⟩)
      rw [startsCased_append_of_not_passedOver hdecides]

/-- One letter more, in front or behind, gives a capital sigma that wavers its other form. -/
theorem Wavers.exists_other_form {before after : Text} (h : Wavers before after) {x : Char}
    (hx : startsCased [x] = true) :
    ∃ front rest, (front = [x] ∧ rest = [] ∨ front = [] ∧ rest = [x]) ∧
      lowerIn (before ++ front) 'Σ' (after ++ rest) ≠ lowerIn before 'Σ' after := by
  rcases h with ⟨hbefore, hafter⟩ | ⟨hbefore, hafter⟩
  · refine ⟨[x], [], .inl ⟨rfl, rfl⟩, ?_⟩
    rw [lowerIn_sigma, lowerIn_sigma, List.append_nil, hbefore.startsCased_append, hx,
      hbefore.startsCased, hafter]
    decide
  · refine ⟨[], [x], .inr ⟨rfl, rfl⟩, ?_⟩
    rw [lowerIn_sigma, lowerIn_sigma, List.append_nil, hafter.startsCased_append, hx,
      hafter.startsCased, hbefore]
    decide

/-! ## Settled texts -/

/-- No capital sigma of the text wavers. -/
def Settled (t : Text) : Prop :=
  ∀ n < t.length, t[n]? = some 'Σ' → ¬ Wavers (t.take n).reverse (t.drop (n + 1))

instance (t : Text) : Decidable (Settled t) :=
  inferInstanceAs (Decidable
    (∀ n < t.length, t[n]? = some 'Σ' → ¬ Wavers (t.take n).reverse (t.drop (n + 1))))

theorem settled_iff (t : Text) :
    Settled t ↔ ∀ a b, t = a ++ 'Σ' :: b → ¬ Wavers a.reverse b := by
  constructor
  · rintro h a b rfl
    have hwavers := h a.length (by simp) (by simp)
    rwa [List.take_left, ← List.drop_drop, List.drop_left] at hwavers
  · intro h n hn hget
    apply h
    obtain ⟨hlt, hsigma⟩ := List.getElem?_eq_some_iff.mp hget
    rw [← hsigma, List.getElem_cons_drop, List.take_append_drop]

theorem settled_of_not_mem {t : Text} (h : 'Σ' ∉ t) : Settled t :=
  fun _ _ hget => absurd (List.mem_of_getElem? hget) h

/-- A settled text has the same form wherever it stands. -/
theorem Settled.lowercaseBetween_eq {t : Text} (h : Settled t) (front rest : Text) :
    lowercaseBetween front t rest = t.lowercase := by
  have hrest (a b : Text) (ht : t = a ++ b) :
      lowercaseBetween (a.reverse ++ front) b rest = lowercaseBetween a.reverse b [] := by
    induction b generalizing a with
    | nil => rfl
    | cons c b ih =>
      have htail := ih (a ++ [c]) (by rw [ht, List.append_cons])
      rw [List.reverse_append, List.reverse_singleton, List.singleton_append,
        List.cons_append] at htail
      have hhead : lowerIn (a.reverse ++ front) c (b ++ rest) = lowerIn a.reverse c b := by
        by_cases hc : c = 'Σ'
        · subst hc
          exact lowerIn_sigma_append ((settled_iff t).mp h a b ht) front rest
        · rw [lowerIn_of_ne hc, lowerIn_of_ne hc]
      rw [lowercaseBetween, lowercaseBetween, hhead, htail, List.append_nil]
  rw [lowercase_eq]
  exact hrest [] t rfl

/-- A text that is not settled has another form beside one letter more. -/
theorem exists_other_form_of_not_settled {t : Text} (h : ¬ Settled t) {x : Char}
    (hx : startsCased [x] = true) :
    ∃ front rest, (front = [x] ∧ rest = [] ∨ front = [] ∧ rest = [x]) ∧
      lowercaseBetween front t rest ≠ t.lowercase := by
  rw [settled_iff] at h
  push Not at h
  obtain ⟨a, b, rfl, hwavers⟩ := h
  obtain ⟨front, rest, hone, hne⟩ := hwavers.exists_other_form hx
  refine ⟨front, rest, hone, ?_⟩
  intro heq
  rw [lowercase_eq, lowercaseBetween_append, lowercaseBetween_append, lowercaseBetween,
    lowercaseBetween] at heq
  obtain ⟨-, htails⟩ := List.append_inj heq (by rw [length_lowercaseBetween,
    length_lowercaseBetween])
  obtain ⟨hsigmas, -⟩ := List.append_inj htails (by rw [lowerIn_sigma, lowerIn_sigma]; rfl)
  rw [List.append_nil, List.append_nil] at hsigmas
  exact hne hsigmas

/-- A text does not stand in another one of its length with one more character, which it does not
start with. -/
theorem not_infix_cons {u v : Text} {x : Char} (hlength : u.length = v.length) (hne : u ≠ v)
    (hnil : v ≠ []) (hhead : v.head? ≠ some x) : ¬ v <:+: x :: u := by
  intro h
  rcases List.infix_cons_iff.mp h with ⟨rest, hrest⟩ | h
  · have hstart := congrArg List.head? hrest
    rw [List.head?_append_of_ne_nil _ hnil] at hstart
    exact hhead hstart
  · exact hne (h.eq_of_length hlength.symm).symm

theorem not_infix_concat {u v : Text} {x : Char} (hlength : u.length = v.length) (hne : u ≠ v)
    (hnil : v ≠ []) (hlast : v.getLast? ≠ some x) : ¬ v <:+: u ++ [x] := by
  rw [← List.reverse_infix, List.reverse_append, List.reverse_singleton, List.singleton_append]
  apply not_infix_cons
  · rw [List.length_reverse, List.length_reverse, hlength]
  · exact fun h => hne (List.reverse_inj.mp h)
  · exact fun h => hnil (List.reverse_eq_nil_iff.mp h)
  · rwa [List.head?_reverse]

/-- A letter without another form that is neither of two given characters. -/
theorem exists_letter (o p : Option Char) :
    ∃ x, startsCased [x] = true ∧ lowerForm x = [x] ∧ o ≠ some x ∧ p ≠ some x := by
  have hall : (['a', 'b', 'c'].all fun x => startsCased [x] && lowerForm x == [x]) = true := by
    decide +kernel
  have hletters {x : Char} (hx : x ∈ ['a', 'b', 'c']) :
      startsCased [x] = true ∧ lowerForm x = [x] := by
    simpa using List.all_eq_true.mp hall x hx
  obtain ⟨x, hx, ho, hp⟩ : ∃ x ∈ ['a', 'b', 'c'], o ≠ some x ∧ p ≠ some x := by
    by_contra hnone
    push Not at hnone
    have ha := hnone 'a' (by simp)
    have hb := hnone 'b' (by simp)
    have hc := hnone 'c' (by simp)
    by_cases h : o = some 'a' <;> simp_all
  obtain ⟨hcased, hform⟩ := hletters hx
  exact ⟨x, hcased, hform, ho, hp⟩

/-- A text that is not settled stands in some text whose lower-case form does not hold its own. -/
theorem exists_lost {t : Text} (hne : t ≠ []) (h : ¬ Settled t) :
    ∃ u : Text, t <:+: u ∧ ¬ t.lowercase <:+: u.lowercase := by
  obtain ⟨x, hcased, hform, hhead, hlast⟩ := exists_letter t.lowercase.head? t.lowercase.getLast?
  have hx : x ≠ 'Σ' := by
    rintro rfl
    exact absurd hform (by decide)
  have hnil := lowercase_ne_nil hne
  obtain ⟨front, rest, hone, hother⟩ := exists_other_form_of_not_settled h hcased
  have hlength : (lowercaseBetween front t rest).length = t.lowercase.length := by
    rw [lowercase_eq, length_lowercaseBetween, length_lowercaseBetween]
  rcases hone with ⟨rfl, rfl⟩ | ⟨rfl, rfl⟩
  · refine ⟨[x] ++ t, (List.suffix_append [x] t).isInfix, ?_⟩
    rw [lowercase_eq ([x] ++ t), lowercaseBetween_append, lowercaseBetween, lowerIn_of_ne hx, hform]
    exact not_infix_cons hlength hother hnil hhead
  · refine ⟨t ++ [x], (List.prefix_append t [x]).isInfix, ?_⟩
    rw [lowercase_eq (t ++ [x]), lowercaseBetween_append, lowercaseBetween, lowerIn_of_ne hx, hform]
    exact not_infix_concat hlength hother hnil hlast

/-- The form of a text stands in the forms of all texts in which it stands, exactly if it is settled. -/
theorem lowercase_infix_iff_settled {t : Text} (hne : t ≠ []) :
    (∀ u : Text, t <:+: u → t.lowercase <:+: u.lowercase) ↔ Settled t := by
  constructor
  · intro hall
    by_contra hsettled
    obtain ⟨u, hstands, hlost⟩ := exists_lost hne hsettled
    exact hlost (hall u hstands)
  · rintro hsettled u ⟨front, rest, rfl⟩
    rw [lowercase_eq (front ++ t ++ rest), lowercaseBetween_append, lowercaseBetween_append,
      hsettled.lowercaseBetween_eq]
    exact ⟨_, _, rfl⟩

end Text

namespace Lexicon

open Text

/-- A keyword with an ideograph, or of three characters and more, need not be a word of its own. -/
theorem not_short_of_long {keyword : Text}
    (h : keyword.any isIdeograph = true ∨ 3 ≤ keyword.lowercase.length) :
    keyword ≠ [] ∧ isShort keyword = false := by
  unfold isShort
  rcases h with h | h
  · obtain ⟨c, hc, hideograph⟩ := List.any_eq_true.mp h
    have hword : isWordChar c = false := by
      unfold isWordChar
      rw [hideograph, Bool.not_true, Bool.and_false]
    have hany : keyword.lowercase.any isIdeograph = true :=
      List.any_eq_true.mpr ⟨c, mem_lowercase_of_not_isWordChar hword hc, hideograph⟩
    exact ⟨List.ne_nil_of_mem hc, by rw [hany]; rfl⟩
  · refine ⟨?_, ?_⟩
    · rintro rfl
      exact absurd h (by decide)
    · rw [decide_eq_false (by omega), Bool.and_false]

/-- A lexicon of one keyword finds that keyword or nothing. -/
theorem best?_singleton {L : Type} (text : Text) (label : L) (priority : Int) (keyword : Text) :
    best? text [⟨label, priority, [keyword]⟩] =
      if keywordMatches text.lowercase keyword = true then some ⟨label, keyword, priority⟩
      else none := by
  rw [best?_eq_highest?]
  by_cases h : keywordMatches text.lowercase keyword = true
  · simp [Entry.hit?, h]
  · simp [Entry.hit?, h]

/-- A keyword that need not be a word of its own is found, in all texts in which it stands as it is
spelled, exactly if it is settled: no capital sigma in it takes its form from what stands around the
keyword. A keyword without capital sigma is settled. And a lexicon of one keyword finds it exactly if
it counts. -/
theorem keywords_are_found_as_spelled_iff_settled (keyword : Text)
    (hlong : keyword.any isIdeograph = true ∨ 3 ≤ keyword.lowercase.length) :
    ((∀ text : Text, keyword <:+: text → keywordMatches text.lowercase keyword = true) ↔
        keyword.Settled) ∧
      ('Σ' ∉ keyword → keyword.Settled) ∧
      ∀ (L : Type) (text : Text) (label : L) (priority : Int),
        best? text [⟨label, priority, [keyword]⟩] =
          if keywordMatches text.lowercase keyword = true then some ⟨label, keyword, priority⟩
          else none := by
  obtain ⟨hne, hshort⟩ := not_short_of_long hlong
  refine ⟨?_, settled_of_not_mem, fun L text label priority => best?_singleton text label _ _⟩
  rw [← lowercase_infix_iff_settled hne]
  refine forall_congr' fun text => imp_congr_right fun _ => ?_
  exact ⟨fun h => (infix_of_keywordMatches h).2, keywordMatches_of_infix hne hshort⟩

/-- The sigma at the end of a keyword becomes another one inside a longer word, and the keyword is not
found there. The sigma in front of a vowel is the same in every word. -/
theorem a_keyword_with_a_final_sigma_is_lost :
    let lost : Text := "ΠΡΟΣ".toList
    let kept : Text := "ΣΟΦΙΑ".toList
    let text : Text := "ΠΡΟΣΟΧΗ".toList
    (3 ≤ lost.lowercase.length ∧ 3 ≤ kept.lowercase.length) ∧
      lost <:+: text ∧ keywordMatches text.lowercase lost = false ∧
      best? text [⟨(), 1, [lost]⟩] = none ∧ ¬ lost.Settled ∧ kept.Settled ∧
      ∀ text : Text, kept <:+: text → keywordMatches text.lowercase kept = true := by
  intro lost kept text
  have hlost : 3 ≤ lost.lowercase.length := by decide +kernel
  have hkept : 3 ≤ kept.lowercase.length := by decide
  have hmiss : keywordMatches text.lowercase lost = false := by decide +kernel
  have hstands : lost <:+: text := ⟨[], "ΟΧΗ".toList, by decide⟩
  have hsettled : kept.Settled := by decide +kernel
  obtain ⟨hiff, -, hbest⟩ := keywords_are_found_as_spelled_iff_settled lost (.inr hlost)
  obtain ⟨hfound, -, -⟩ := keywords_are_found_as_spelled_iff_settled kept (.inr hkept)
  refine ⟨⟨hlost, hkept⟩, hstands, hmiss, ?_, ?_, hsettled, hfound.mpr hsettled⟩
  · rw [hbest, if_neg (by simp [hmiss])]
  · intro h
    have hmatch := hiff.mpr h text hstands
    rw [hmiss] at hmatch
    cases hmatch

end Lexicon

end CueStream
