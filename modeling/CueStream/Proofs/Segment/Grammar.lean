-- What separates two parts of a text, as a grammar says it: a line end, blanks
-- and another line end, or the mark that ends a sentence, blanks and the first
-- character of a sentence. The search finds the separator that begins first,
-- and takes as many blanks as belong to it.
import CueStream.Proofs.Segment.Offsets
import CueStream.Proofs.Text.Place

namespace CueStream

open Unicode

namespace Text

/-! ## The grammar -/

/-- A separator begins the text: a line end, and another one behind nothing but blanks; or a mark that
ends a sentence, at least one blank, and a character that begins a sentence. -/
def BeginsSeparator (t : Text) : Prop :=
  (∃ blanks rest, t = '\n' :: (blanks ++ '\n' :: rest) ∧ ∀ c ∈ blanks, isBlank c = true) ∨
  ∃ mark blanks start rest, t = mark :: (blanks ++ start :: rest) ∧ mark ∈ sentenceEnds ∧
    blanks ≠ [] ∧ (∀ c ∈ blanks, isBlank c = true) ∧ isSentenceStart start = true

/-- A separator begins at this byte offset. -/
def SeparatorAt (t : Text) (pos : Nat) : Prop :=
  ∃ front rest, t = front ++ rest ∧ front.byteLength = pos ∧ rest.BeginsSeparator

end Text

namespace Cut

/-- The text is cut at a separator that begins it. Between two paragraphs the gap goes up to the last
line end among the blanks; between two sentences the mark stays in front of it, and the gap holds all
blanks. -/
inductive AtHead : Cut → Prop
  | paragraph {blanks more rest : Text} (hblanks : ∀ c ∈ blanks, isBlank c = true)
    (hmore : ∀ c ∈ more, isBlank c = true) (hlast : '\n' ∉ more)
    (hrest : ∀ c ∈ rest.head?, isBlank c = false) :
    AtHead ⟨[], '\n' :: (blanks ++ ['\n']), more ++ rest⟩
  | sentence {mark start : Char} {blanks rest : Text} (hmark : mark ∈ sentenceEnds)
    (hne : blanks ≠ []) (hblanks : ∀ c ∈ blanks, isBlank c = true)
    (hstart : isSentenceStart start = true) :
    AtHead ⟨[mark], blanks, start :: rest⟩

end Cut

namespace Text

/-- A separator begins at the offset `pos`, and its gap has these two ends. -/
def Separates (t : Text) (pos : Nat) (ends : Nat × Nat) : Prop :=
  ∃ (front : Text) (k : Cut), t = front ++ k.whole ∧ front.byteLength = pos ∧ k.AtHead ∧
    k.ends pos = ends

/-! ## Runs of blanks -/

theorem takeWhile_blanks {w rest : Text} (hw : ∀ c ∈ w, isBlank c = true)
    (hrest : ∀ c ∈ rest.head?, isBlank c = false) : (w ++ rest).takeWhile isBlank = w := by
  rw [List.takeWhile_append_of_pos hw]
  cases rest with
  | nil => simp
  | cons c rest => simp [hrest c rfl]

theorem dropWhile_blanks {w rest : Text} (hw : ∀ c ∈ w, isBlank c = true)
    (hrest : ∀ c ∈ rest.head?, isBlank c = false) : (w ++ rest).dropWhile isBlank = rest := by
  rw [List.dropWhile_append_of_pos hw]
  cases rest with
  | nil => rfl
  | cons c rest => simp [hrest c rfl]

/-- What begins a sentence is not blank. -/
theorem not_blank_of_sentenceStart {c : Char} (h : isSentenceStart c = true) :
    isBlank c = false := by
  rw [← Bool.not_eq_true, isBlank, within_eq_true_iff]
  rintro ⟨span, hspan, hblank⟩
  have hletter : (65 ≤ c.toNat ∧ c.toNat ≤ 90) ∨ 0x3400 ≤ c.toNat := by
    rw [isSentenceStart, Bool.or_eq_true, isIdeograph, within_eq_true_iff] at h
    rcases h with h | ⟨span, hspan, hin⟩
    · rw [Bool.and_eq_true, decide_eq_true_iff, decide_eq_true_iff] at h
      exact .inl h
    · refine .inr ?_
      simp only [ideographSpans, List.mem_cons, List.not_mem_nil, or_false] at hspan
      rcases hspan with rfl | rfl | rfl | rfl <;> (dsimp only at hin; omega)
  simp only [blankSpans, List.mem_cons, List.not_mem_nil, or_false] at hspan
  rcases hspan with rfl | rfl | rfl | rfl | rfl | rfl | rfl | rfl | rfl | rfl <;>
    (dsimp only at hblank; omega)

/-- A text that holds a character, cut at the last one. -/
theorem exists_last {c : Char} {t : Text} (h : c ∈ t) :
    ∃ front rest, t = front ++ c :: rest ∧ c ∉ rest := by
  obtain ⟨behind, ahead, hsplit, hbehind⟩ :=
    List.eq_append_cons_of_mem (List.mem_reverse.mpr h)
  refine ⟨ahead.reverse, behind.reverse, ?_, by simpa using hbehind⟩
  have hback := congrArg List.reverse hsplit
  simpa using hback

end Text

namespace Cut

open Text

/-! ## The gap at the head of a text -/

theorem lastLineEnd?_eq_none {t : Text} (h : '\n' ∉ t) : lastLineEnd? t = none := by
  induction t with
  | nil => rfl
  | cons c rest ih =>
    rw [List.mem_cons, not_or] at h
    rw [lastLineEnd?, ih h.2]
    exact if_neg (Ne.symm h.1)

theorem lastLineEnd?_append_cons (front : Text) {rest : Text} (h : '\n' ∉ rest) :
    lastLineEnd? (front ++ '\n' :: rest) = some (front ++ ['\n'], rest) := by
  induction front with
  | nil =>
    rw [List.nil_append, lastLineEnd?, lastLineEnd?_eq_none h]
    rfl
  | cons c front ih =>
    rw [List.cons_append, lastLineEnd?, ih]
    rfl

theorem here?_lineEnd (rest : Text) : here? '\n' rest = atLineEnd? rest := rfl

theorem here?_mark {mark : Char} (h : mark ∈ sentenceEnds) (rest : Text) :
    here? mark rest = afterMark? mark rest :=
  if_pos (List.contains_iff_mem.mpr h)

/-- Blanks from the first line end to the last one are a gap, whatever blanks follow. -/
theorem atLineEnd?_of_blank {blanks more rest : Text} (hblanks : ∀ c ∈ blanks, isBlank c = true)
    (hmore : ∀ c ∈ more, isBlank c = true) (hlast : '\n' ∉ more)
    (hrest : ∀ c ∈ rest.head?, isBlank c = false) :
    atLineEnd? (blanks ++ '\n' :: (more ++ rest)) =
      some ⟨[], '\n' :: (blanks ++ ['\n']), more ++ rest⟩ := by
  have hrun : ∀ c ∈ blanks ++ '\n' :: more, isBlank c = true :=
    List.forall_mem_append.mpr ⟨hblanks, List.forall_mem_cons.mpr ⟨by decide, hmore⟩⟩
  have hsplit : blanks ++ '\n' :: (more ++ rest) = (blanks ++ '\n' :: more) ++ rest := by simp
  rw [atLineEnd?, hsplit, takeWhile_blanks hrun hrest, dropWhile_blanks hrun hrest,
    lastLineEnd?_append_cons blanks hlast]
  rfl

/-- Blanks between a mark and the start of a sentence are a gap. -/
theorem afterMark?_of_start {start : Char} {blanks : Text} (mark : Char) (rest : Text)
    (hne : blanks ≠ []) (hblanks : ∀ c ∈ blanks, isBlank c = true)
    (hstart : isSentenceStart start = true) :
    afterMark? mark (blanks ++ start :: rest) = some ⟨[mark], blanks, start :: rest⟩ := by
  have hhead : ∀ c ∈ (start :: rest).head?, isBlank c = false := by
    rintro c ⟨⟩
    exact not_blank_of_sentenceStart hstart
  obtain ⟨b, more, rfl⟩ := List.exists_cons_of_ne_nil hne
  rw [afterMark?, takeWhile_blanks hblanks hhead, dropWhile_blanks hblanks hhead]
  exact if_pos hstart

theorem AtHead.here? {c : Char} {rest : Text} {k : Cut} (h : k.AtHead)
    (hwhole : k.whole = c :: rest) : here? c rest = some k := by
  cases h with
  | paragraph hblanks hmore hlast hrest =>
    simp only [whole, List.nil_append, List.cons_append, List.append_assoc] at hwhole
    cases hwhole
    rw [here?_lineEnd]
    exact atLineEnd?_of_blank hblanks hmore hlast hrest
  | sentence hmark hne hblanks hstart =>
    simp only [whole, List.cons_append, List.nil_append] at hwhole
    cases hwhole
    rw [here?_mark hmark]
    exact afterMark?_of_start _ _ hne hblanks hstart

theorem atHead_of_here? {c : Char} {rest : Text} {k : Cut} (h : Cut.here? c rest = some k) :
    k.AtHead := by
  have htake : ∀ x ∈ rest.takeWhile isBlank, isBlank x = true := fun x hx =>
    List.mem_takeWhile_imp hx
  unfold Cut.here? at h
  split at h
  · rename_i hmark
    unfold afterMark? at h
    split at h
    · rename_i b blanks start after hb hd
      obtain ⟨hstart, hk⟩ := Option.ite_none_right_eq_some.mp h
      cases hk
      rw [hb] at htake
      exact .sentence (List.contains_iff_mem.mp hmark) nofun htake hstart
    · cases h
  · split at h
    · obtain ⟨⟨a, b⟩, hlast, rfl⟩ := Option.map_eq_some_iff.mp h
      by_cases hmem : '\n' ∈ rest.takeWhile isBlank
      · obtain ⟨front, more, hsplit, hmore⟩ := exists_last hmem
        rw [hsplit, lastLineEnd?_append_cons front hmore] at hlast
        cases hlast
        rw [hsplit] at htake
        obtain ⟨hfront, hrest⟩ := List.forall_mem_append.mp htake
        exact .paragraph hfront (List.forall_mem_cons.mp hrest).2 hmore
          (head?_trimStart rest)
      · rw [lastLineEnd?_eq_none hmem] at hlast
        cases hlast
    · cases h

theorem here?_eq_some_iff {c : Char} {rest : Text} {k : Cut} :
    Cut.here? c rest = some k ↔ k.AtHead ∧ k.whole = c :: rest :=
  ⟨fun h => ⟨atHead_of_here? h, (whole_of_here? h).1⟩, fun h => h.1.here? h.2⟩

/-- Wherever the grammar sees a separator, the text can be cut, and nowhere else. -/
theorem begins_iff {t : Text} : t.BeginsSeparator ↔ ∃ k : Cut, k.AtHead ∧ k.whole = t := by
  constructor
  · rintro (⟨blanks, rest, rfl, hblanks⟩ |
      ⟨mark, blanks, start, rest, rfl, hmark, hne, hblanks, hstart⟩)
    · -- the run of blanks may go on behind the second line end, and hold others
      have hrun : ∀ c ∈ blanks ++ '\n' :: rest.takeWhile isBlank, isBlank c = true :=
        List.forall_mem_append.mpr
          ⟨hblanks, List.forall_mem_cons.mpr ⟨by decide, fun c hc => List.mem_takeWhile_imp hc⟩⟩
      obtain ⟨front, more, hsplit, hmore⟩ :=
        exists_last (c := '\n') (t := blanks ++ '\n' :: rest.takeWhile isBlank) (by simp)
      rw [hsplit] at hrun
      obtain ⟨hfront, hbehind⟩ := List.forall_mem_append.mp hrun
      have hwhole : (front ++ '\n' :: more) ++ rest.dropWhile isBlank = blanks ++ '\n' :: rest := by
        rw [← hsplit, List.append_assoc, List.cons_append, List.takeWhile_append_dropWhile]
      refine ⟨⟨[], '\n' :: (front ++ ['\n']), more ++ rest.dropWhile isBlank⟩,
        .paragraph hfront (List.forall_mem_cons.mp hbehind).2 hmore (head?_trimStart rest), ?_⟩
      rw [← hwhole]
      simp [whole]
    · exact ⟨⟨[mark], blanks, start :: rest⟩, .sentence hmark hne hblanks hstart, by simp [whole]⟩
  · rintro ⟨k, hk, rfl⟩
    cases hk with
    | @paragraph blanks more rest hblanks _ _ _ =>
      exact .inl ⟨blanks, more ++ rest, by simp [whole], hblanks⟩
    | @sentence mark start blanks rest hmark hne hblanks hstart =>
      exact .inr ⟨mark, blanks, start, rest, by simp [whole], hmark, hne, hblanks, hstart⟩

/-! ## The first gap of a text -/

/-- The cut of a text with more in front. -/
def behind (front : Text) (k : Cut) : Cut :=
  { k with before := front ++ k.before }

/-- The text is cut at a separator behind `front`, and none begins in `front`. -/
structure FirstBehind (t front : Text) (k : Cut) : Prop where
  atHead : k.AtHead
  whole : front ++ k.whole = t
  first : ∀ a b, a ++ b = t → a.byteLength < front.byteLength → ¬ b.BeginsSeparator

theorem exists_firstBehind {t : Text} {k : Cut} (h : first? t = some k) :
    ∃ front inner, k = behind front inner ∧ FirstBehind t front inner := by
  induction t generalizing k with
  | nil => cases h
  | cons c rest ih =>
    simp only [first?, Option.or_eq_some_iff, Option.map_eq_some_iff] at h
    rcases h with h | ⟨hnone, k', hk', rfl⟩
    · obtain ⟨hhead, hwhole⟩ := here?_eq_some_iff.mp h
      exact ⟨[], k, rfl, hhead, hwhole, fun a b _ hlt => absurd hlt (Nat.not_lt_zero _)⟩
    · obtain ⟨front, inner, rfl, hinner⟩ := ih hk'
      refine ⟨c :: front, inner, rfl, hinner.atHead, congrArg _ hinner.whole, ?_⟩
      rintro (_ | ⟨d, a⟩) b hab hlt hbegins
      · obtain ⟨k', hk', hwhole⟩ := begins_iff.mp hbegins
        cases hnone.symm.trans (hk'.here? (hwhole.trans hab))
      · cases hab
        simp only [byteLength_cons, Nat.add_lt_add_iff_left] at hlt
        exact hinner.first a b rfl hlt hbegins

theorem not_begins_of_first?_eq_none {t : Text} (h : first? t = none) (a b : Text)
    (hab : a ++ b = t) : ¬ b.BeginsSeparator := by
  induction t generalizing a with
  | nil =>
    obtain ⟨rfl, rfl⟩ := List.append_eq_nil_iff.mp hab
    rintro (⟨_, _, ⟨⟩, -⟩ | ⟨_, _, _, _, ⟨⟩, -⟩)
  | cons c rest ih =>
    simp only [first?, Option.or_eq_none_iff, Option.map_eq_none_iff] at h
    rcases a with _ | ⟨d, a⟩
    · intro hbegins
      obtain ⟨k, hk, hwhole⟩ := begins_iff.mp hbegins
      cases h.1.symm.trans (hk.here? (hwhole.trans hab))
    · cases hab
      exact ih h.2 a rfl

theorem AtHead.gap_ne_nil {k : Cut} (h : k.AtHead) : k.gap ≠ [] := by
  cases h with
  | paragraph => nofun
  | sentence _ hne => exact hne

theorem ends_behind (front : Text) (k : Cut) (start : Nat) :
    (behind front k).ends start = k.ends (start + front.byteLength) := by
  simp only [ends, behind, byteLength_append, Nat.add_assoc]

end Cut

namespace Text

/-! ## Separators at a place -/

theorem separatorAt_append {front rest : Text} {pos : Nat} (h : front.byteLength ≤ pos) :
    (front ++ rest).SeparatorAt pos ↔
      ∃ a b, a ++ b = rest ∧ front.byteLength + a.byteLength = pos ∧ b.BeginsSeparator := by
  constructor
  · rintro ⟨a, b, hab, rfl, hb⟩
    obtain ⟨m, rfl, rfl⟩ := exists_append_of_le hab h
    exact ⟨m, b, rfl, (byteLength_append front m).symm, hb⟩
  · rintro ⟨a, b, rfl, rfl, hb⟩
    exact ⟨front ++ a, b, (List.append_assoc front a b).symm, byteLength_append front a, hb⟩

/-- Where a separator begins, its ends are settled. -/
theorem Separates.unique {t : Text} {pos : Nat} {ends others : Nat × Nat}
    (h : t.Separates pos ends) (h' : t.Separates pos others) : ends = others := by
  obtain ⟨front, k, rfl, rfl, hk, rfl⟩ := h
  obtain ⟨front', k', ht, hlen, hk', rfl⟩ := h'
  obtain ⟨rfl, hwhole⟩ := append_inj_of_byteLength ht hlen.symm
  obtain ⟨c, rest, hcons⟩ : ∃ c rest, k.whole = c :: rest := by
    refine List.exists_cons_of_ne_nil fun hnil => hk.gap_ne_nil ?_
    simp only [Cut.whole, List.append_eq_nil_iff] at hnil
    exact hnil.1.2
  cases (hk.here? hcons).symm.trans (hk'.here? (hwhole.symm.trans hcons))
  rfl

theorem Separates.separatorAt {t : Text} {pos : Nat} {ends : Nat × Nat}
    (h : t.Separates pos ends) : t.SeparatorAt pos := by
  obtain ⟨front, k, rfl, rfl, hk, -⟩ := h
  exact ⟨front, k.whole, rfl, rfl, Cut.begins_iff.mpr ⟨k, hk, rfl⟩⟩

theorem Separates.bounds {t : Text} {pos s e : Nat} (h : t.Separates pos (s, e)) :
    pos ≤ s ∧ s < e ∧ t.IsBoundary s ∧ t.IsBoundary e := by
  obtain ⟨front, k, rfl, rfl, hk, hends⟩ := h
  cases hends
  have hgap := byteLength_pos hk.gap_ne_nil
  refine ⟨Nat.le_add_right _ _, Nat.lt_add_of_pos_right hgap, ?_, ?_⟩
  · refine ⟨front ++ k.before, k.gap ++ k.after, ?_, byteLength_append _ _⟩
    simp only [Cut.whole, List.append_assoc]
  · refine ⟨front ++ k.before ++ k.gap, k.after, ?_, ?_⟩
    · simp only [Cut.whole, List.append_assoc]
    · rw [byteLength_append, byteLength_append]

/-! ## The search -/

/-- The separator with these ends is the first one from an offset on. -/
def FirstSeparator (t : Text) (start : Nat) (ends : Nat × Nat) : Prop :=
  ∃ pos, start ≤ pos ∧ t.Separates pos ends ∧
    ∀ earlier, start ≤ earlier → earlier < pos → ¬ t.SeparatorAt earlier

theorem FirstSeparator.unique {t : Text} {start : Nat} {ends others : Nat × Nat}
    (h : t.FirstSeparator start ends) (h' : t.FirstSeparator start others) : ends = others := by
  obtain ⟨pos, hpos, hsep, hfirst⟩ := h
  obtain ⟨pos', hpos', hsep', hfirst'⟩ := h'
  have hsame : pos = pos' := by
    refine Nat.le_antisymm (Nat.le_of_not_lt fun hlt => ?_) (Nat.le_of_not_lt fun hlt => ?_)
    · exact hfirst pos' hpos' hlt hsep'.separatorAt
    · exact hfirst' pos hpos hlt hsep.separatorAt
  cases hsame
  exact hsep.unique hsep'

theorem firstSeparator_of_first? {rest : Text} {k : Cut} (h : Cut.first? rest = some k)
    (front : Text) : (front ++ rest).FirstSeparator front.byteLength (k.ends front.byteLength) := by
  obtain ⟨before, inner, rfl, hinner⟩ := Cut.exists_firstBehind h
  refine ⟨front.byteLength + before.byteLength, Nat.le_add_right _ _, ?_, ?_⟩
  · refine ⟨front ++ before, inner, ?_, byteLength_append _ _, hinner.atHead, ?_⟩
    · rw [List.append_assoc, hinner.whole]
    · rw [Cut.ends_behind]
  · intro earlier hle hlt hsep
    obtain ⟨a, b, hab, rfl, hb⟩ := (separatorAt_append hle).mp hsep
    exact hinner.first a b hab (Nat.lt_of_add_lt_add_left hlt) hb

theorem not_separatorAt_of_first? {rest : Text} (h : Cut.first? rest = none) (front : Text)
    {pos : Nat} (hle : front.byteLength ≤ pos) : ¬ (front ++ rest).SeparatorAt pos := by
  intro hsep
  obtain ⟨a, b, hab, -, hb⟩ := (separatorAt_append hle).mp hsep
  exact Cut.not_begins_of_first?_eq_none h a b hab hb

/-- From every place of a text on, the search by offsets comes to an end, and finds what the search in
the rest of the text finds: something exactly if a separator of the grammar begins there or later, and
then the one that begins first, with the ends that the grammar gives it. Both lie between characters,
and not in front of the place. What stands in front of the place only moves them. -/
theorem the_search_finds_the_first_separator (front rest : Text) :
    let t := front ++ rest
    let start := front.byteLength
    let found := (Cut.first? rest).map (Cut.ends start)
    t.nextGap? start = some found ∧
      (found.isSome = true ↔ ∃ pos, start ≤ pos ∧ t.SeparatorAt pos) ∧
      (∀ ends, found = some ends ↔ t.FirstSeparator start ends) ∧
      (∀ s e, found = some (s, e) →
        start ≤ s ∧ s < e ∧ t.IsBoundary s ∧ t.IsBoundary e) ∧
      ∀ other : Text, (other ++ rest).nextGap? other.byteLength =
        some (found.map fun ends =>
          (ends.1 - start + other.byteLength, ends.2 - start + other.byteLength)) := by
  intro t start found
  have hfirst (ends : Nat × Nat) (h : found = some ends) : t.FirstSeparator start ends := by
    obtain ⟨k, hk, rfl⟩ := Option.map_eq_some_iff.mp h
    exact firstSeparator_of_first? hk front
  have hsome (pos : Nat) (hle : start ≤ pos) (hsep : t.SeparatorAt pos) :
      ∃ ends, found = some ends := by
    cases hk : Cut.first? rest with
    | none => exact absurd hsep (not_separatorAt_of_first? hk front hle)
    | some k => exact ⟨k.ends start, by simp only [found, hk, Option.map_some]⟩
  refine ⟨nextGap?_append front rest, ?_, ?_, ?_, ?_⟩
  · constructor
    · intro h
      obtain ⟨ends, hends⟩ := Option.isSome_iff_exists.mp h
      obtain ⟨pos, hpos, hsep, -⟩ := hfirst ends hends
      exact ⟨pos, hpos, hsep.separatorAt⟩
    · rintro ⟨pos, hpos, hsep⟩
      exact Option.isSome_iff_exists.mpr (hsome pos hpos hsep)
  · intro ends
    constructor
    · exact hfirst ends
    · rintro h
      obtain ⟨pos, hpos, hsep, -⟩ := id h
      obtain ⟨others, hothers⟩ := hsome pos hpos hsep.separatorAt
      rw [hothers, (hfirst others hothers).unique h]
  · intro s e h
    obtain ⟨pos, hpos, hsep, -⟩ := hfirst (s, e) h
    obtain ⟨hle, hbounds⟩ := hsep.bounds
    exact ⟨Nat.le_trans hpos hle, hbounds⟩
  · intro other
    rw [nextGap?_append]
    cases hk : Cut.first? rest with
    | none => simp only [found, hk, Option.map_none]
    | some k =>
      simp only [found, hk, Option.map_some, Cut.ends, Option.some_inj, Prod.mk.injEq]
      omega

/-- No sentence begins behind the mark and its blanks, so no separator begins at the mark. One begins at
the line end behind it, and its gap ends with the last line end of the blanks. -/
theorem a_paragraph_is_found_behind_a_mark :
    let front : Text := "é. ".toList
    let rest : Text := "ok.\n \n\u3000x. Y".toList
    let t : Text := front ++ rest
    t.nextGap? front.byteLength = some (some (7, 10)) ∧ t.FirstSeparator 4 (7, 10) ∧
      (4 ≤ 7 ∧ 7 < 10 ∧ t.IsBoundary 7 ∧ t.IsBoundary 10) := by
  intro front rest t
  obtain ⟨hfound, -, hfirst, hbounds, -⟩ := the_search_finds_the_first_separator front rest
  have hends : (Cut.first? rest).map (Cut.ends front.byteLength) = some (7, 10) := by decide
  refine ⟨?_, (hfirst (7, 10)).mp hends, hbounds 7 10 hends⟩
  rw [hends] at hfound
  exact hfound

end Text

end CueStream
