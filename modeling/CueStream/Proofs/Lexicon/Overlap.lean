-- What the search for words and stems misses. It skips what it has tried, and so
-- passes over a place that overlaps one at which the part stood but did not count.
-- Which parts can be missed that way depends on the parts alone: those that begin
-- again within themselves where no word reaches over. Among short keywords these
-- are the ones of two equal characters that belong to no word.
import CueStream.Proofs.Lexicon.Keyword

namespace CueStream

namespace Text

/-! ## Words and stems at a place -/

/-- A stem stands at this place of the text: no word goes on there from what is in front of it. -/
def StemAt (stem t : Text) (n : Nat) : Prop :=
  stem <+: t.drop n ∧ isEdge (t.take n).getLast? = true

/-- A word stands at this place of the text: no word goes on there on either side of it. -/
def WordAt (word t : Text) (n : Nat) : Prop :=
  StemAt word t n ∧ isEdge (t.drop (n + word.length)).head? = true

instance (stem t : Text) (n : Nat) : Decidable (StemAt stem t n) :=
  inferInstanceAs (Decidable (_ ∧ _))

instance (word t : Text) (n : Nat) : Decidable (WordAt word t n) :=
  inferInstanceAs (Decidable (_ ∧ _))

theorem containsWord_iff_tried {word : Text} (hne : word ≠ []) (t : Text) :
    containsWord t word = true ↔ ∃ n, Tried word t n ∧ WordAt word t n := by
  unfold containsWord
  rw [bounded_iff_tried .word hne]
  simp only [Bound.word_admits_iff]
  exact exists_congr fun n =>
    ⟨fun h => ⟨h.1, ⟨h.1.stands, h.2.1⟩, h.2.2⟩, fun h => ⟨h.1, h.2.1.2, h.2.2⟩⟩

theorem containsStem_iff_tried {stem : Text} (hne : stem ≠ []) (t : Text) :
    containsStem t stem = true ↔ ∃ n, Tried stem t n ∧ StemAt stem t n := by
  unfold containsStem
  rw [bounded_iff_tried .stem hne]
  simp only [Bound.stem_admits_iff]
  exact exists_congr fun n =>
    ⟨fun h => ⟨h.1, h.1.stands, h.2⟩, fun h => ⟨h.1, h.2.2⟩⟩

/-! ## What is missed -/

/-- Behind a character that the part does not start with, it is tried at once. -/
theorem tried_one {part u : Text} {x : Char} (hne : part ≠ []) (hhead : part.head? ≠ some x)
    (h : part <+: u) : ¬ Tried part (x :: u) 0 ∧ Tried part (x :: u) 1 := by
  have hnot : ¬ Tried part (x :: u) 0 := by
    intro h0
    obtain ⟨rest, hrest⟩ := h0.stands
    have hstart := congrArg List.head? hrest
    rw [List.head?_append_of_ne_nil _ hne] at hstart
    exact hhead hstart
  exact ⟨hnot, ((Skipping.start part _).next hnot).tried_iff.mpr h⟩

/-- A part that is not steady is missed behind a word character: where it stands there it does not
count, and where it begins again within that place, it is not tried. -/
theorem exists_missed {part : Text} (h : ¬ Steady part) :
    ∃ t n, WordAt part t n ∧ ∀ b, bounded b part t = false := by
  obtain ⟨k, hk, hpos, hself, hedge⟩ : ∃ k < part.length, 0 < k ∧ part.drop k <+: part ∧
      isEdge (part.take k).getLast? = true := by
    unfold Steady at h
    push Not at h
    simpa using h
  obtain ⟨x, hx, hhead⟩ : ∃ x, isWordChar x = true ∧ part.head? ≠ some x := by
    by_cases ha : part.head? = some 'a'
    · exact ⟨'b', by decide, by rw [ha]; decide⟩
    · exact ⟨'a', by decide, ha⟩
  have hne : part ≠ [] := List.length_pos_iff.mp (by omega)
  have hlength : (part.take k).length = k := List.length_take_of_le (by omega)
  have hfront : part.take k ≠ [] := List.length_pos_iff.mp (by omega)
  let t : Text := x :: (part.take k ++ part)
  have hplace : t.drop (k + 1) = part := by
    rw [List.drop_succ_cons, List.drop_left' hlength]
  have hbefore : t.take (k + 1) = x :: part.take k := by
    rw [List.take_succ_cons, List.take_left' hlength]
  refine ⟨t, k + 1, ⟨⟨hplace ▸ List.prefix_refl part, ?_⟩, ?_⟩, ?_⟩
  · rwa [hbefore, List.getLast?_cons_of_ne_nil hfront]
  · rw [← List.drop_drop, hplace, List.drop_length]
    rfl
  · intro b
    rw [← Bool.not_eq_true, bounded_iff_tried b hne]
    rintro ⟨m, htried, hadmits⟩
    have hagain : part <+: part.take k ++ part := by
      conv_lhs => rw [← List.take_append_drop k part]
      exact (List.prefix_append_right_inj _).mpr hself
    obtain ⟨hnot, hone⟩ := tried_one hne hhead hagain
    match m with
    | 0 => exact hnot htried
    | 1 =>
      have hbad := Bound.isEdge_of_admits hadmits
      rw [List.take_succ_cons, List.take_zero, List.getLast?_singleton] at hbad
      simp [isEdge, hx] at hbad
    | m + 2 =>
      have hle := htried.le hone (by omega)
      have hfits := htried.stands.length_le
      rw [List.length_drop, List.length_cons, List.length_append, hlength] at hfits
      omega

/-- A part is found wherever it counts, in all texts, exactly if it is steady. -/
theorem bounded_iff_steady (b : Bound) {part : Text} (hne : part ≠ []) :
    (∀ t, bounded b part t = true ↔
        ∃ n, part <+: t.drop n ∧
          b.admits (t.take n).getLast? (t.drop (n + part.length)).head? = true) ↔
      Steady part := by
  constructor
  · intro hall
    by_contra hsteady
    obtain ⟨t, n, hword, hmissed⟩ := exists_missed hsteady
    have hadmits : b.admits (t.take n).getLast? (t.drop (n + part.length)).head? = true := by
      unfold Bound.admits
      rw [hword.1.2, hword.2, Bool.or_true, Bool.and_true]
    have hfound := (hall t).mpr ⟨n, hword.1.1, hadmits⟩
    rw [hmissed] at hfound
    cases hfound
  · intro hsteady t
    rw [bounded_iff hne hsteady,
      exists_place_iff fun front rest => b.admits front.getLast? rest.head? = true]

theorem containsWord_iff_steady {word : Text} (hne : word ≠ []) :
    (∀ t, containsWord t word = true ↔ ∃ n, WordAt word t n) ↔ Steady word := by
  rw [← bounded_iff_steady .word hne]
  simp only [containsWord, WordAt, StemAt, Bound.word_admits_iff, and_assoc]

theorem containsStem_iff_steady {stem : Text} (hne : stem ≠ []) :
    (∀ t, containsStem t stem = true ↔ ∃ n, StemAt stem t n) ↔ Steady stem := by
  rw [← bounded_iff_steady .stem hne]
  simp only [containsStem, StemAt, Bound.stem_admits_iff]

/-- Two characters overlap themselves only if they are the same. -/
theorem steady_iff_of_length_le {part : Text} (h : part.length ≤ 2) :
    Steady part ↔ ∀ c, part = [c, c] → isWordChar c = true := by
  match part with
  | [] => simp [Steady]
  | [c] => exact iff_of_true (Solid.steady (.inl rfl)) (by simp)
  | [c, d] =>
    constructor
    · rintro hsteady e heq
      obtain ⟨rfl, rfl⟩ : c = e ∧ d = e := by simpa using heq
      have hend := hsteady 1 (by simp) Nat.one_pos ⟨[d], rfl⟩
      simpa [isEdge] using hend
    · intro hword k hk hpos hself
      obtain rfl : k = 1 := by simp at hk; omega
      obtain rfl : d = c := by simpa using hself
      simp [isEdge, hword d rfl]
  | _ :: _ :: _ :: _ => simp at h

end Text

namespace Lexicon

open Text

theorem keywordMatches_of_isShort {keyword : Text} (hne : keyword ≠ [])
    (hshort : isShort keyword = true) (lower : Text) :
    keywordMatches lower keyword = containsWord lower keyword.lowercase := by
  rw [keywordMatches_eq, hshort, if_pos rfl, List.isEmpty_eq_false_iff.mpr hne]
  rfl

theorem length_lowercase_of_isShort {keyword : Text} (h : isShort keyword = true) :
    keyword.lowercase.length ≤ 2 := by
  unfold isShort at h
  exact of_decide_eq_true (Bool.and_eq_true _ _ ▸ h).2

/-- What the search for a word or stem finds, in every text: the part counts if it does so at a place
at which it is tried, and it is tried where it overlaps no earlier place at which it was. So every place
counts, in all texts, exactly if the part is steady; any other part is missed somewhere. A short keyword
with this lower-case form counts wherever it is a word of its own, in all texts, exactly if it is not one
character twice that belongs to no word. -/
theorem only_what_overlaps_is_missed {part : Text} (hne : part ≠ []) :
    (∀ t, containsWord t part = true ↔ ∃ n, Tried part t n ∧ WordAt part t n) ∧
      (∀ t, containsStem t part = true ↔ ∃ n, Tried part t n ∧ StemAt part t n) ∧
      ((∀ t, containsWord t part = true ↔ ∃ n, WordAt part t n) ↔ Steady part) ∧
      ((∀ t, containsStem t part = true ↔ ∃ n, StemAt part t n) ↔ Steady part) ∧
      ∀ keyword : Text, keyword.lowercase = part → isShort keyword = true →
        ((∀ lower, keywordMatches lower keyword = true ↔ ∃ n, WordAt part lower n) ↔
          ∀ c, part = [c, c] → isWordChar c = true) := by
  refine ⟨containsWord_iff_tried hne, containsStem_iff_tried hne, containsWord_iff_steady hne,
    containsStem_iff_steady hne, ?_⟩
  rintro keyword rfl hshort
  have hkeyword : keyword ≠ [] := by
    rintro rfl
    exact hne rfl
  simp only [keywordMatches_of_isShort hkeyword hshort]
  rw [containsWord_iff_steady hne, steady_iff_of_length_le (length_lowercase_of_isShort hshort)]

/-- Behind a word, two of three question marks are tried at once, where they do not count, and the last
two are not tried any more, where they would. -/
theorem question_marks_behind_a_word_are_missed :
    let marks : Text := "??".toList
    let text : Text := "what???".toList
    (marks ≠ [] ∧ marks.lowercase = marks ∧ isShort marks = true) ∧
      WordAt marks text 5 ∧ containsWord text marks = false ∧ containsStem text marks = false ∧
      keywordMatches text marks = false ∧ ¬ Steady marks ∧
      ¬ (∀ t, containsStem t marks = true ↔ ∃ n, StemAt marks t n) ∧
      ¬ ∀ lower, keywordMatches lower marks = true ↔ ∃ n, WordAt marks lower n := by
  intro marks text
  have hne : marks ≠ [] := by decide
  have hlower : marks.lowercase = marks := by decide
  have hshort : isShort marks = true := by decide
  have hsteady : ¬ Steady marks := by decide +kernel
  obtain ⟨-, -, -, hstems, hkeywords⟩ := only_what_overlaps_is_missed hne
  refine ⟨⟨hne, hlower, hshort⟩, by decide +kernel, by decide, by decide, by decide, hsteady,
    fun h => hsteady (hstems.mp h), ?_⟩
  intro h
  have hword := (hkeywords marks hlower hshort).mp h '?' (by decide)
  exact absurd hword (by decide +kernel)

end Lexicon

end CueStream
