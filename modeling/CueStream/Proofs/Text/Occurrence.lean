-- Where a part stands in a text so that it counts. The search goes from left
-- to right and skips what it has tried, which hides no occurrence of a part
-- that begins again within itself only inside a word, as a single character
-- and a part of one word do.
import CueStream.Text.Word
import Mathlib.Data.List.Basic

namespace CueStream.Text

/-! ## Edges -/

/-- No word reaches over the cut between two texts. -/
def Apart (a b : Text) : Prop :=
  isEdge a.getLast? = true ∨ isEdge b.head? = true

instance (a b : Text) : Decidable (Apart a b) :=
  inferInstanceAs (Decidable (isEdge a.getLast? = true ∨ isEdge b.head? = true))

theorem isEdge_getLast?_of_append {a b : Text} (h : isEdge (a ++ b).getLast? = true) :
    isEdge b.getLast? = true := by
  cases hb : b.getLast? with
  | none => rfl
  | some c => rwa [List.getLast?_append, hb] at h

theorem isEdge_head?_of_append {a b : Text} (h : isEdge (a ++ b).head? = true) :
    isEdge a.head? = true := by
  cases a with
  | nil => rfl
  | cons c rest => exact h

/-- A word ends with a word character. -/
theorem isEdge_getLast?_of_letters {t : Text} (hne : t ≠ []) (h : ∀ c ∈ t, isWordChar c = true) :
    isEdge t.getLast? = false := by
  have hlast := h _ (List.getLast_mem hne)
  unfold isEdge
  rw [List.getLast?_eq_some_getLast hne, Option.any_some, hlast]
  rfl

/-- A word begins with a word character. -/
theorem isEdge_head?_of_letters {t : Text} (hne : t ≠ []) (h : ∀ c ∈ t, isWordChar c = true) :
    isEdge t.head? = false := by
  have hfirst := h _ (List.head_mem hne)
  unfold isEdge
  rw [List.head?_eq_some_head hne, Option.any_some, hfirst]
  rfl

/-- If no word reaches over the cut in front of a word, no word character stands there. -/
theorem Apart.edge_before {a word b : Text} (h : Apart a (word ++ b)) (hne : word ≠ [])
    (hword : ∀ c ∈ word, isWordChar c = true) : isEdge a.getLast? = true := by
  refine h.resolve_right fun hedge => ?_
  have hfirst := isEdge_head?_of_append hedge
  rw [isEdge_head?_of_letters hne hword] at hfirst
  cases hfirst

/-- If no word reaches over the cut behind a word, no word character stands there. -/
theorem Apart.edge_behind {a word b : Text} (h : Apart (a ++ word) b) (hne : word ≠ [])
    (hword : ∀ c ∈ word, isWordChar c = true) : isEdge b.head? = true := by
  refine h.resolve_left fun hedge => ?_
  have hlast := isEdge_getLast?_of_append hedge
  rw [isEdge_getLast?_of_letters hne hword] at hlast
  cases hlast

/-- What is left of a text without the word characters at its start begins no word. -/
theorem isEdge_head?_dropWhile (t : Text) : isEdge (t.dropWhile isWordChar).head? = true := by
  have hnot := List.head?_dropWhile_not isWordChar t
  unfold isEdge
  cases hd : (t.dropWhile isWordChar).head? with
  | none => rfl
  | some c =>
    rw [hd] at hnot
    simpa using hnot

theorem Bound.isEdge_of_admits {b : Bound} {before after : Option Char}
    (h : b.admits before after = true) : isEdge before = true := by
  unfold Bound.admits at h
  exact (Bool.and_eq_true _ _ ▸ h).1

theorem Bound.stem_admits_iff {before after : Option Char} :
    Bound.stem.admits before after = true ↔ isEdge before = true := by
  simp [Bound.admits]

theorem Bound.word_admits_iff {before after : Option Char} :
    Bound.word.admits before after = true ↔ isEdge before = true ∧ isEdge after = true := by
  simp [Bound.admits]

/-! ## Parts -/

/-- A single character, or word characters only: no cut goes through such a text but one that goes
through a word. -/
def Solid (t : Text) : Prop :=
  t.length = 1 ∨ ∀ c ∈ t, isWordChar c = true

instance (t : Text) : Decidable (Solid t) :=
  decidable_of_iff (t.length = 1 ∨ t.all isWordChar = true) (or_congr_right List.all_eq_true)

/-- Where the part begins again within itself, it does so inside a word. An occurrence that overlaps
an earlier one does not count then. -/
def Steady (part : Text) : Prop :=
  ∀ k < part.length, 0 < k → part.drop k <+: part → isEdge (part.take k).getLast? = false

instance (part : Text) : Decidable (Steady part) :=
  inferInstanceAs (Decidable (∀ k < part.length,
    0 < k → part.drop k <+: part → isEdge (part.take k).getLast? = false))

theorem Solid.steady {t : Text} (h : Solid t) : Steady t := by
  intro k hk hpos _
  rcases h with hone | hword
  · omega
  · have hne : t.take k ≠ [] := by
      rw [← List.length_pos_iff, List.length_take]
      omega
    exact isEdge_getLast?_of_letters hne fun c hc => hword c (List.mem_of_mem_take hc)

/-! ## Places -/

/-- The places of a part are the ways to take the text apart around it. -/
theorem exists_place_iff {part t : Text} (P : Text → Text → Prop) :
    (∃ n, part <+: t.drop n ∧ P (t.take n) (t.drop (n + part.length))) ↔
      ∃ front rest, t = front ++ part ++ rest ∧ P front rest := by
  constructor
  · rintro ⟨n, ⟨rest, hrest⟩, hP⟩
    refine ⟨t.take n, rest, ?_, ?_⟩
    · rw [List.append_assoc, hrest, List.take_append_drop]
    · rwa [← List.drop_drop, ← hrest, List.drop_left] at hP
  · rintro ⟨front, rest, rfl, hP⟩
    refine ⟨front.length, ?_, ?_⟩
    · rw [List.append_assoc, List.drop_left]
      exact List.prefix_append part rest
    · rwa [← List.length_append, List.drop_left, List.append_assoc, List.take_left]

/-- The search tries the part at this place of the text: it stands there, and overlaps no place at
which it was tried before. -/
def Tried (part t : Text) (n : Nat) : Prop :=
  part <+: t.drop n ∧ ∀ m < n, n < m + part.length → ¬ Tried part t m
termination_by n

theorem Tried.stands {part t : Text} {n : Nat} (h : Tried part t n) : part <+: t.drop n := by
  rw [Tried] at h
  exact h.1

/-- No two places that are tried overlap. -/
theorem Tried.le {part t : Text} {m n : Nat} (hn : Tried part t n) (hm : Tried part t m)
    (hlt : m < n) : m + part.length ≤ n := by
  rw [Tried] at hn
  exact Nat.le_of_not_lt fun hoverlap => hn.2 m hlt hoverlap hm

/-- From the place `n` on, the search has to skip what is left of the place that it tried last. -/
structure Skipping (part t : Text) (n skip : Nat) : Prop where
  behind : ∀ m < n, Tried part t m → m + part.length ≤ n + skip
  within : 0 < skip → ∃ m < n, Tried part t m ∧ m + part.length = n + skip

namespace Skipping

variable {part t : Text} {n skip : Nat}

theorem start (part t : Text) : Skipping part t 0 0 :=
  ⟨fun m hm => absurd hm (Nat.not_lt_zero m), fun h => absurd h (Nat.lt_irrefl 0)⟩

/-- What is being skipped is not tried. -/
theorem not_tried (h : Skipping part t n (skip + 1)) : ¬ Tried part t n := by
  intro htried
  obtain ⟨m, hm, hlast, hend⟩ := h.within (Nat.succ_pos skip)
  have := htried.le hlast hm
  omega

theorem tried_iff (h : Skipping part t n 0) : Tried part t n ↔ part <+: t.drop n := by
  rw [Tried, and_iff_left_iff_imp]
  intro _ m hm hoverlap htried
  have := h.behind m hm htried
  omega

/-- The part was not tried here. -/
theorem next (h : Skipping part t n skip) (hnot : ¬ Tried part t n) :
    Skipping part t (n + 1) (skip - 1) := by
  have hlt {m : Nat} (hm : m < n + 1) (htried : Tried part t m) : m < n := by
    refine Nat.lt_of_le_of_ne (Nat.le_of_lt_succ hm) ?_
    rintro rfl
    exact hnot htried
  refine ⟨?_, ?_⟩
  · intro m hm htried
    have := h.behind m (hlt hm htried) htried
    omega
  · intro hpos
    obtain ⟨m, hm, htried, hend⟩ := h.within (by omega)
    exact ⟨m, by omega, htried, by omega⟩

/-- The part was tried here. -/
theorem restart (h : Skipping part t n 0) (hpos : 0 < part.length) (htried : Tried part t n) :
    Skipping part t (n + 1) (part.length - 1) := by
  refine ⟨?_, fun _ => ⟨n, Nat.lt_succ_self n, htried, by omega⟩⟩
  intro m hm hm'
  rcases Nat.lt_succ_iff_lt_or_eq.mp hm with hm | rfl
  · have := h.behind m hm hm'
    omega
  · omega

end Skipping

theorem exists_le_iff (n : Nat) (P : Nat → Prop) :
    (∃ m, n ≤ m ∧ P m) ↔ P n ∨ ∃ m, n + 1 ≤ m ∧ P m := by
  constructor
  · rintro ⟨m, hm, hP⟩
    rcases Nat.eq_or_lt_of_le hm with rfl | hm
    · exact .inl hP
    · exact .inr ⟨m, hm, hP⟩
  · rintro (hP | ⟨m, hm, hP⟩)
    · exact ⟨n, Nat.le_refl n, hP⟩
    · exact ⟨m, Nat.le_of_succ_le hm, hP⟩

/-- From any place on, the search finds the part if it counts where it is tried. -/
theorem boundedAfter_iff {b : Bound} {part t : Text} (hne : part ≠ []) {n skip : Nat}
    (h : Skipping part t n skip) :
    boundedAfter b part (t.take n).getLast? skip (t.drop n) = true ↔
      ∃ m, n ≤ m ∧ Tried part t m ∧
        b.admits (t.take m).getLast? (t.drop (m + part.length)).head? = true := by
  have hpos := List.length_pos_iff.mpr hne
  induction hrest : t.drop n generalizing n skip with
  | nil =>
    refine iff_of_false (by simp [boundedAfter]) ?_
    rintro ⟨m, hm, htried, -⟩
    have hstands := htried.stands
    rw [List.drop_eq_nil_of_le (Nat.le_trans (List.drop_eq_nil_iff.mp hrest) hm)] at hstands
    exact hne (List.prefix_nil.mp hstands)
  | cons c rest ih =>
    have hget : t[n]? = some c := by rw [← List.head?_drop, hrest, List.head?_cons]
    have hlast : (t.take (n + 1)).getLast? = some c := by
      rw [List.take_add_one, hget, Option.toList_some, List.getLast?_concat]
    have hdrop : t.drop (n + 1) = rest := by
      rw [← List.drop_drop, hrest, List.drop_one, List.tail_cons]
    have hnext {left : Nat} (h : Skipping part t (n + 1) left) :
        boundedAfter b part (some c) left rest = true ↔
          ∃ m, n + 1 ≤ m ∧ Tried part t m ∧
            b.admits (t.take m).getLast? (t.drop (m + part.length)).head? = true := by
      rw [← hlast]
      exact ih h hdrop
    rw [exists_le_iff]
    cases skip with
    | succ skip =>
      have hahead : Skipping part t (n + 1) skip := h.next h.not_tried
      rw [boundedAfter, hnext hahead, or_iff_right]
      exact fun hn => h.not_tried hn.1
    | zero =>
      rw [h.tried_iff, boundedAfter, hrest]
      split
      · rename_i hstarts
        rw [List.isPrefixOf_iff_prefix] at hstarts
        have htried := h.tried_iff.mpr (hrest ▸ hstarts)
        rw [Bool.or_eq_true, hnext (h.restart hpos htried), ← List.drop_drop, hrest]
        simp only [hstarts, true_and]
      · rename_i hstarts
        rw [List.isPrefixOf_iff_prefix] at hstarts
        have hnot : ¬ Tried part t n := fun htried => hstarts (hrest ▸ htried.stands)
        rw [hnext (h.next hnot), or_iff_right]
        exact fun hn => hstarts hn.1

/-! ## What the search finds -/

/-- A part that is not empty is found exactly if it counts at a place at which it is tried. -/
theorem bounded_iff_tried (b : Bound) {part : Text} (hne : part ≠ []) (t : Text) :
    bounded b part t = true ↔
      ∃ n, Tried part t n ∧
        b.admits (t.take n).getLast? (t.drop (n + part.length)).head? = true := by
  have hempty : part.isEmpty = false := List.isEmpty_eq_false_iff.mpr hne
  have hsearch := boundedAfter_iff (b := b) hne (Skipping.start part t)
  unfold bounded
  rw [hempty, Bool.not_false, Bool.true_and]
  simpa using hsearch

/-- What the search finds stands in the text, and counts there. -/
theorem exists_of_bounded {b : Bound} {part t : Text} (h : bounded b part t = true) :
    ∃ front rest, t = front ++ part ++ rest ∧ b.admits front.getLast? rest.head? = true := by
  have hne : part ≠ [] := by
    rintro rfl
    cases h
  obtain ⟨n, htried, hadmits⟩ := (bounded_iff_tried b hne t).mp h
  exact (exists_place_iff fun front rest => b.admits front.getLast? rest.head? = true).mp
    ⟨n, htried.stands, hadmits⟩

/-- A steady part is tried wherever no word reaches over its start: a place that it overlaps in front
would have a word character there. -/
theorem Steady.tried {part t : Text} (h : Steady part) {n : Nat} (hstands : part <+: t.drop n)
    (hedge : isEdge (t.take n).getLast? = true) : Tried part t n := by
  rw [Tried]
  refine ⟨hstands, ?_⟩
  intro m hm hoverlap htried
  obtain ⟨k, rfl⟩ := Nat.exists_eq_add_of_lt hm
  obtain ⟨rest, hrest⟩ := htried.stands
  have hk : k + 1 < part.length := by omega
  have hagain : t.drop (m + k + 1) = part.drop (k + 1) ++ rest := by
    rw [Nat.add_assoc, ← List.drop_drop, ← hrest, List.drop_append_of_le_length (by omega)]
  have hfront : t.take (m + k + 1) = t.take m ++ part.take (k + 1) := by
    rw [Nat.add_assoc, List.take_add, ← hrest, List.take_append_of_le_length (by omega)]
  have hne : part.take (k + 1) ≠ [] := by
    rw [← List.length_pos_iff, List.length_take]
    omega
  have hself : part.drop (k + 1) <+: part := by
    refine List.prefix_of_prefix_length_le (List.prefix_append _ rest) (hagain ▸ hstands) ?_
    rw [List.length_drop]
    omega
  rw [hfront, List.getLast?_append_of_ne_nil _ hne, h (k + 1) hk (Nat.succ_pos k) hself] at hedge
  cases hedge

/-- A steady part that is not empty is found exactly if it counts somewhere. -/
theorem bounded_iff {b : Bound} {part : Text} (hne : part ≠ []) (hsteady : Steady part) (t : Text) :
    bounded b part t = true ↔
      ∃ front rest, t = front ++ part ++ rest ∧ b.admits front.getLast? rest.head? = true := by
  refine ⟨exists_of_bounded, ?_⟩
  intro h
  obtain ⟨n, hstands, hadmits⟩ :=
    (exists_place_iff fun front rest => b.admits front.getLast? rest.head? = true).mpr h
  have htried := hsteady.tried hstands (Bound.isEdge_of_admits hadmits)
  exact (bounded_iff_tried b hne t).mpr ⟨n, htried, hadmits⟩

/-- The whole of a text counts in it. -/
theorem bounded_self (b : Bound) {part : Text} (hne : part ≠ []) : bounded b part part = true := by
  refine (bounded_iff_tried b hne part).mpr ⟨0, ?_, ?_⟩
  · exact (Skipping.start part part).tried_iff.mpr (List.prefix_refl part)
  · rw [List.take_zero, Nat.zero_add, List.drop_length]
    cases b <;> rfl

theorem eq_of_cons_eq_concat {c d : Char} {t : Text} (h : c :: t = t ++ [d]) : c = d := by
  induction t generalizing c with
  | nil => exact (List.cons_eq_cons.mp h).1
  | cons e rest ih =>
    rw [List.cons_append, List.cons_eq_cons] at h
    exact h.1.trans (ih h.2)

/-- A word with one more word character behind it does not count any more. -/
theorem containsWord_concat (word : Text) {c : Char} (hc : isWordChar c = true) :
    containsWord (word ++ [c]) word = false := by
  rw [← Bool.not_eq_true]
  intro h
  obtain ⟨front, rest, heq, hadmits⟩ := exists_of_bounded h
  rw [Bound.word_admits_iff] at hadmits
  have hlength := congrArg List.length heq
  simp only [List.length_append, List.length_singleton] at hlength
  have hedge : isEdge (some c) = false := by
    unfold isEdge
    rw [Option.any_some, hc]
    rfl
  match front, rest with
  | [], [] => simp at hlength
  | [], d :: more =>
    rw [List.nil_append, List.append_cancel_left_eq] at heq
    rw [← heq, List.head?_cons, hedge] at hadmits
    cases hadmits.2
  | d :: more, rest =>
    -- the word would have to be the same character over and over
    have hmore : more = [] := by
      apply List.length_eq_zero_iff.mp
      rw [List.length_cons] at hlength
      omega
    have hrest : rest = [] := by
      apply List.length_eq_zero_iff.mp
      rw [List.length_cons] at hlength
      omega
    rw [hmore, hrest, List.append_nil] at heq
    have hd : d = c := eq_of_cons_eq_concat heq.symm
    rw [hmore, List.getLast?_singleton, hd, hedge] at hadmits
    cases hadmits.1

theorem infix_of_bounded {b : Bound} {part t : Text} (h : bounded b part t = true) :
    part <:+: t := by
  obtain ⟨front, rest, rfl, -⟩ := exists_of_bounded h
  exact ⟨front, rest, rfl⟩

/-- A solid word is found exactly if it stands somewhere with no word character beside it. -/
theorem containsWord_iff {word : Text} (hne : word ≠ []) (hsolid : Solid word) (t : Text) :
    containsWord t word = true ↔
      ∃ front rest, t = front ++ word ++ rest ∧ isEdge front.getLast? = true ∧
        isEdge rest.head? = true := by
  unfold containsWord
  rw [bounded_iff hne hsolid.steady]
  simp only [Bound.word_admits_iff]

/-! ## Parts that stand on images -/

/-- Two beginnings of one text share a character. -/
theorem exists_mem_of_append_eq {a b t u : Text} (ha : a ≠ []) (hb : b ≠ []) (h : a ++ t = b ++ u) :
    ∃ d ∈ a, d ∈ b := by
  obtain ⟨d, a', rfl⟩ := List.exists_cons_of_ne_nil ha
  obtain ⟨e, b', rfl⟩ := List.exists_cons_of_ne_nil hb
  rw [List.cons_append, List.cons_append, List.cons_eq_cons] at h
  exact ⟨d, List.mem_cons_self, h.1 ▸ List.mem_cons_self⟩

section Images

variable {f : Char → Text} (hf : ∀ c, f c ≠ [])

include hf

/-- A text whose images start with `part` starts with a stretch on whose images `part` stands. -/
theorem exists_prefix_of_flatMap {t part rest : Text} (h : t.flatMap f = part ++ rest) :
    ∃ x b v, t = x ++ b ∧ x.flatMap f = part ++ v ∧ rest = v ++ b.flatMap f ∧
      x.length ≤ part.length ∧ ∀ c ∈ x, ∃ d ∈ f c, d ∈ part := by
  induction t generalizing part with
  | nil =>
    obtain ⟨rfl, rfl⟩ := List.append_eq_nil_iff.mp h.symm
    exact ⟨[], [], [], rfl, rfl, rfl, Nat.le_refl 0, by simp⟩
  | cons c t ih =>
    by_cases hpart : part = []
    · exact ⟨[], c :: t, [], rfl, by rw [hpart]; rfl, by rw [h, hpart]; rfl, Nat.zero_le _, by simp⟩
    · rw [List.flatMap_cons] at h
      have hshared := exists_mem_of_append_eq (hf c) hpart h
      have hpos := List.length_pos_iff.mpr hpart
      have himage := List.length_pos_iff.mpr (hf c)
      rcases List.append_eq_append_iff.mp h with ⟨k, hk, hrest⟩ | ⟨v, hv, hrest⟩
      · -- the part reaches beyond the image of `c`
        obtain ⟨x, b, v, rfl, hx, hb, hlength, hmem⟩ := ih hrest
        refine ⟨c :: x, b, v, rfl, ?_, hb, ?_, ?_⟩
        · rw [List.flatMap_cons, hx, hk, List.append_assoc]
        · rw [hk, List.length_append, List.length_cons]
          omega
        · rw [List.forall_mem_cons]
          refine ⟨hshared, ?_⟩
          intro y hy
          obtain ⟨z, hz, hzk⟩ := hmem y hy
          exact ⟨z, hz, hk ▸ List.mem_append_right _ hzk⟩
      · refine ⟨[c], t, v, rfl, ?_, hrest, hpos, by simpa using hshared⟩
        rw [List.flatMap_singleton, hv]

/-- Where `part` stands in the images of a text, there is a stretch of the text on whose images it
stands, and no longer than `part`. -/
theorem exists_stretch_of_flatMap {t front part rest : Text} (hpart : part ≠ [])
    (h : t.flatMap f = front ++ part ++ rest) :
    ∃ a x b u v, t = a ++ x ++ b ∧ front = a.flatMap f ++ u ∧ x.flatMap f = u ++ part ++ v ∧
      rest = v ++ b.flatMap f ∧ x.length ≤ part.length ∧ ∀ c ∈ x, ∃ d ∈ f c, d ∈ part := by
  induction t generalizing front with
  | nil =>
    have hnil := (List.append_eq_nil_iff.mp h.symm).1
    exact absurd (List.append_eq_nil_iff.mp hnil).2 hpart
  | cons c t ih =>
    rw [List.flatMap_cons, List.append_assoc] at h
    rcases List.append_eq_append_iff.mp h with ⟨more, hfront, hrest⟩ | ⟨image, himage, hrest⟩
    · -- the part stands behind the image of `c`
      rw [← List.append_assoc] at hrest
      obtain ⟨a, x, b, u, v, rfl, rfl, hx, hb, hlength, hmem⟩ := ih hrest
      refine ⟨c :: a, x, b, u, v, rfl, ?_, hx, hb, hlength, hmem⟩
      rw [hfront, List.flatMap_cons, List.append_assoc]
    · by_cases hnone : image = []
      · -- it starts right behind the image of `c`
        rw [hnone, List.append_nil] at himage
        rw [hnone, List.nil_append] at hrest
        obtain ⟨x, b, v, rfl, hx, hb, hlength, hmem⟩ := exists_prefix_of_flatMap hf hrest.symm
        refine ⟨[c], x, b, [], v, rfl, ?_, hx, hb, hlength, hmem⟩
        rw [List.flatMap_singleton, List.append_nil, himage]
      · -- it starts within the image of `c`
        obtain ⟨d, hd, hdpart⟩ := exists_mem_of_append_eq hnone hpart hrest.symm
        have hshared : ∃ d ∈ f c, d ∈ part :=
          ⟨d, himage ▸ List.mem_append_right front hd, hdpart⟩
        have hpos := List.length_pos_iff.mpr hpart
        have hlength := List.length_pos_iff.mpr hnone
        rcases List.append_eq_append_iff.mp hrest with ⟨v, hv, hb⟩ | ⟨k, hk, hb⟩
        · refine ⟨[], [c], t, front, v, rfl, rfl, ?_, hb, hpos, by simpa using hshared⟩
          rw [List.flatMap_singleton, himage, hv, List.append_assoc]
        · obtain ⟨x, b, v, rfl, hx, hb, hle, hmem⟩ := exists_prefix_of_flatMap hf hb
          refine ⟨[], c :: x, b, front, v, rfl, rfl, ?_, hb, ?_, ?_⟩
          · rw [List.flatMap_cons, hx, himage, hk]
            simp only [List.append_assoc]
          · rw [hk, List.length_append, List.length_cons]
            omega
          · rw [List.forall_mem_cons]
            refine ⟨hshared, ?_⟩
            intro y hy
            obtain ⟨z, hz, hzk⟩ := hmem y hy
            exact ⟨z, hz, hk ▸ List.mem_append_right _ hzk⟩

end Images

end CueStream.Text
