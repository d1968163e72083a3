-- The passages of a text do not depend on how the text arrived. What stands
-- before a gap is settled, whatever comes later; more text may only widen the
-- gap, and the blanks of a gap belong to no passage.
import CueStream.Segment.Buffer
import Mathlib.Data.List.DropRight

namespace CueStream

open Unicode

namespace Text

/-! ## Blanks at the ends -/

theorem trimStart_append_of_blank {w : Text} (hw : ∀ c ∈ w, isBlank c = true) (t : Text) :
    trimStart (w ++ t) = trimStart t :=
  List.dropWhile_append_of_pos hw

theorem trimStart_eq_nil_iff (t : Text) : trimStart t = [] ↔ ∀ c ∈ t, isBlank c = true :=
  List.dropWhile_eq_nil_iff

theorem head?_trimStart (t : Text) : ∀ c ∈ (trimStart t).head?, isBlank c = false := by
  intro c hc
  have hnot := List.head?_dropWhile_not isBlank t
  rw [trimStart] at hc
  rw [hc] at hnot
  simpa using hnot

theorem trimStart_trimStart (t : Text) : trimStart (trimStart t) = trimStart t := by
  unfold trimStart
  rw [List.dropWhile_idempotent]

/-- A text that is not all blank keeps what follows it when the blanks in front go. -/
theorem trimStart_append_of_not_blank {t : Text} (h : ¬ ∀ c ∈ t, isBlank c = true) (u : Text) :
    trimStart (t ++ u) = trimStart t ++ u := by
  rw [← trimStart_eq_nil_iff] at h
  unfold trimStart at h ⊢
  rw [List.dropWhile_append, if_neg]
  simpa using h

theorem trimEnd_append_of_blank (t : Text) {w : Text} (hw : ∀ c ∈ w, isBlank c = true) :
    trimEnd (t ++ w) = trimEnd t := by
  unfold trimEnd
  rw [List.reverse_append, List.dropWhile_append_of_pos]
  intro c hc
  exact hw c (List.mem_reverse.mp hc)

theorem trim_blank_append {w : Text} (hw : ∀ c ∈ w, isBlank c = true) (t : Text) :
    trim (w ++ t) = trim t := by
  unfold trim
  rw [trimStart_append_of_blank hw]

theorem trim_append_blank (t : Text) {w : Text} (hw : ∀ c ∈ w, isBlank c = true) :
    trim (t ++ w) = trim t := by
  unfold trim
  by_cases ht : ∀ c ∈ t, isBlank c = true
  · have hall : ∀ c ∈ t ++ w, isBlank c = true := by
      intro c hc
      exact (List.mem_append.mp hc).elim (ht c) (hw c)
    rw [(trimStart_eq_nil_iff _).mpr hall, (trimStart_eq_nil_iff _).mpr ht]
  · rw [trimStart_append_of_not_blank ht, trimEnd_append_of_blank _ hw]

/-- Trimming takes off blanks in front, and then some behind. -/
theorem trimStart_eq_trim_append (t : Text) :
    ∃ w, trimStart t = trim t ++ w ∧ ∀ c ∈ w, isBlank c = true := by
  refine ⟨((trimStart t).reverse.takeWhile isBlank).reverse, ?_, ?_⟩
  · unfold trim trimEnd
    rw [← List.reverse_append, List.takeWhile_append_dropWhile, List.reverse_reverse]
  · intro c hc
    exact List.mem_takeWhile_imp (List.mem_reverse.mp hc)

theorem trim_infix (t : Text) : trim t <:+: t := by
  obtain ⟨w, hw, -⟩ := trimStart_eq_trim_append t
  have hprefix : trim t <+: trimStart t := ⟨w, hw.symm⟩
  exact hprefix.isInfix.trans (List.dropWhile_suffix isBlank).isInfix

theorem trim_trimStart (t : Text) : trim (trimStart t) = trim t := by
  unfold trim
  rw [trimStart_trimStart]

/-- Trimming takes off all blanks at once. -/
theorem trim_trim (t : Text) : trim (trim t) = trim t := by
  obtain ⟨w, hw, hb⟩ := trimStart_eq_trim_append t
  rw [← trim_append_blank (trim t) hb, ← hw, trim_trimStart]

end Text

namespace Cut

open Text

/-! ## A gap when more text comes -/

/-- A mark ends no sentence while only blanks follow it. -/
theorem here?_mark_of_blank {c : Char} (hc : sentenceEnds.contains c = true) {rest : Text}
    (h : ∀ x ∈ rest, isBlank x = true) : here? c rest = none := by
  have hdrop : rest.dropWhile isBlank = [] := (trimStart_eq_nil_iff rest).mpr h
  unfold here? afterMark?
  rw [if_pos hc, hdrop]
  split
  · rename_i hn
    cases hn
  · rfl

theorem not_blank_of_mark {c : Char} (hc : sentenceEnds.contains c = true) : isBlank c = false := by
  simp only [sentenceEnds, List.contains_eq_mem, List.mem_cons, List.not_mem_nil, or_false,
    decide_eq_true_eq] at hc
  rcases hc with rfl | rfl | rfl | rfl | rfl | rfl <;> decide

/-- What a gap at the head of a text leaves in front of it, and behind it. -/
theorem shape_of_here? {c : Char} {rest : Text} {k : Cut} (h : here? c rest = some k) :
    k.after.trimStart = rest.trimStart ∧
      ((sentenceEnds.contains c = true ∧ k.before = [c]) ∨ (c = '\n' ∧ k.before = [])) := by
  unfold here? at h
  split at h
  · rename_i hc
    unfold afterMark? at h
    split at h
    · rename_i b blanks d after hb hd
      split at h
      · cases h
        refine ⟨?_, .inl ⟨hc, rfl⟩⟩
        show trimStart (d :: after) = trimStart rest
        rw [← hd]
        exact trimStart_trimStart rest
      · cases h
    · cases h
  · split at h
    · rename_i hc
      unfold atLineEnd? at h
      rw [Option.map_eq_some_iff] at h
      obtain ⟨⟨a, b⟩, hab, rfl⟩ := h
      refine ⟨?_, .inr ⟨hc, rfl⟩⟩
      have hblank : ∀ x ∈ b, isBlank x = true := by
        intro x hx
        have hmem : x ∈ rest.takeWhile isBlank := by
          rw [← whole_of_lastLineEnd? hab]
          exact List.mem_append_right a hx
        exact List.mem_takeWhile_imp hmem
      rw [trimStart_append_of_blank hblank]
      exact trimStart_trimStart rest
    · cases h

/-- A run of blanks that is over is not changed by what comes later. -/
theorem here?_append_of_not_blank {rest : Text} (h : ¬ ∀ x ∈ rest, isBlank x = true) (c : Char)
    (more : Text) :
    here? c (rest ++ more) = (here? c rest).map fun k => { k with after := k.after ++ more } := by
  have hdrop : (rest ++ more).dropWhile isBlank = rest.dropWhile isBlank ++ more :=
    trimStart_append_of_not_blank h more
  have htake : (rest ++ more).takeWhile isBlank = rest.takeWhile isBlank := by
    rw [List.takeWhile_append, if_neg]
    intro hl
    exact h (List.takeWhile_eq_self_iff.mp ((List.takeWhile_prefix isBlank).eq_of_length hl))
  have hne : rest.dropWhile isBlank ≠ [] := fun hn => h ((trimStart_eq_nil_iff rest).mp hn)
  unfold here? afterMark? atLineEnd?
  rw [hdrop, htake]
  obtain ⟨d, after, hd⟩ := List.exists_cons_of_ne_nil hne
  rw [hd]
  split
  · cases rest.takeWhile isBlank with
    | nil => rfl
    | cons b blanks =>
      simp only [List.cons_append]
      split <;> rfl
  · split
    · simp [Option.map_map, Function.comp_def]
    · rfl

/-- A gap that starts at a line end stays one when more blanks come. -/
theorem lastLineEnd?_append {t : Text} (h : (lastLineEnd? t).isSome = true) (more : Text) :
    (lastLineEnd? (t ++ more)).isSome = true := by
  induction t with
  | nil => simp [lastLineEnd?] at h
  | cons c rest ih =>
    simp only [List.cons_append, lastLineEnd?] at h ⊢
    cases hr : lastLineEnd? (rest ++ more) with
    | some p => rfl
    | none =>
      cases hs : lastLineEnd? rest with
      | some p => simp [hs, hr] at ih
      | none =>
        simp only [hs] at h ⊢
        split at h
        · simp [*]
        · cases h

/-- Only a line end has its gap in front of nothing but blanks, and keeps it when more comes. -/
theorem here?_append_of_blank {c : Char} {rest : Text} {k : Cut}
    (hb : ∀ x ∈ rest, isBlank x = true) (h : here? c rest = some k) (more : Text) :
    c = '\n' ∧ k.before = [] ∧ ∃ q, here? c (rest ++ more) = some q := by
  obtain ⟨-, ⟨hc, -⟩ | ⟨rfl, hbefore⟩⟩ := shape_of_here? h
  · rw [here?_mark_of_blank hc hb] at h
    cases h
  · refine ⟨rfl, hbefore, ?_⟩
    have hline (t : Text) : here? '\n' t = atLineEnd? t := rfl
    rw [hline, atLineEnd?, List.takeWhile_eq_self_iff.mpr hb, Option.map_eq_some_iff] at h
    obtain ⟨p, hp, -⟩ := h
    obtain ⟨q, hq⟩ := Option.isSome_iff_exists.mp
      (lastLineEnd?_append (by rw [hp]; rfl) (more.takeWhile isBlank))
    rw [hline, atLineEnd?, List.takeWhile_append_of_pos hb, hq]
    exact ⟨_, rfl⟩

theorem blank_after {c : Char} {rest : Text} {k : Cut} (h : first? (c :: rest) = some k)
    (hb : ∀ x ∈ rest, isBlank x = true) : ∀ x ∈ k.after, isBlank x = true := by
  obtain ⟨hwhole, hgap⟩ := whole_of_first? h
  unfold whole at hwhole
  intro x hx
  cases hbg : k.before ++ k.gap with
  | nil => exact absurd (List.append_eq_nil_iff.mp hbg).2 hgap
  | cons y ys =>
    rw [hbg] at hwhole
    cases hwhole
    exact hb x (List.mem_append_right ys hx)

theorem blank_before {t : Text} {k : Cut} (h : first? t = some k)
    (hb : ∀ x ∈ t, isBlank x = true) : ∀ x ∈ k.before, isBlank x = true := by
  intro x hx
  apply hb
  rw [← (whole_of_first? h).1]
  exact List.mem_append_left _ (List.mem_append_left _ hx)

/-- What stands before the first gap is settled but for blanks at its end, and what stands behind
it is settled but for blanks at its start. -/
theorem first?_append {t : Text} {k : Cut} (h : first? t = some k) (more : Text) :
    ∃ k' w, first? (t ++ more) = some k' ∧ k.before = k'.before ++ w ∧
      (∀ c ∈ w, isBlank c = true) ∧ trimStart k'.after = trimStart (k.after ++ more) := by
  induction t generalizing k with
  | nil => cases h
  | cons c rest ih =>
    have hk := h
    simp only [first?, Option.or_eq_some_iff, Option.map_eq_some_iff] at h
    simp only [List.cons_append, first?]
    by_cases hb : ∀ x ∈ rest, isBlank x = true
    · -- the gap may reach up to the end of the text, and then more blanks belong to it
      have hafter : trimStart (rest ++ more) = trimStart (k.after ++ more) := by
        rw [trimStart_append_of_blank hb, trimStart_append_of_blank (blank_after hk hb)]
      rcases h with h | ⟨_, k₀, hk₀, rfl⟩
      · obtain ⟨rfl, hbefore, q, hq⟩ := here?_append_of_blank hb h more
        obtain ⟨hqa, ⟨hm, -⟩ | ⟨-, hqb⟩⟩ := shape_of_here? hq
        · exact absurd hm (by decide)
        · exact ⟨q, [], by simp [hq], by simp [hbefore, hqb], by simp, by rw [hqa, hafter]⟩
      · cases hq : here? c (rest ++ more) with
        | none =>
          obtain ⟨k', w, hk', hbefore, hw, ha⟩ := ih hk₀
          exact ⟨cons c k', w, by simp [hk'], by simp [cons, hbefore], hw, ha⟩
        | some q =>
          have hw := blank_before hk₀ hb
          obtain ⟨hqa, ⟨-, hqb⟩ | ⟨rfl, hqb⟩⟩ := shape_of_here? hq
          · exact ⟨q, k₀.before, by simp, by simp [cons, hqb], hw, by rw [hqa, hafter]⟩
          · refine ⟨q, '\n' :: k₀.before, by simp, by simp [cons, hqb], ?_, by rw [hqa, hafter]⟩
            intro x hx
            rcases List.mem_cons.mp hx with rfl | hx
            · decide
            · exact hw x hx
    · rw [here?_append_of_not_blank hb]
      rcases h with h | ⟨hnone, k₀, hk₀, rfl⟩
      · exact ⟨{ k with after := k.after ++ more }, [], by simp [h], by simp, by simp, rfl⟩
      · obtain ⟨k', w, hk', hbefore, hw, ha⟩ := ih hk₀
        exact ⟨cons c k', w, by simp [hnone, hk'], by simp [cons, hbefore], hw, ha⟩

end Cut

namespace Text

/-! ## Parts -/

/-- The tail of a text ends it, and what stands in front of its gaps stands in it. -/
theorem split_infix (t : Text) : t.split.2 <:+ t ∧ ∀ raw ∈ t.split.1, raw <:+: t := by
  fun_induction split t with
  | case1 t h => exact ⟨List.suffix_refl t, by simp⟩
  | case2 t k h _ passages tail hs ih =>
    rw [hs] at ih
    obtain ⟨hwhole, -⟩ := Cut.whole_of_first? h
    have hafter : k.after <:+ t := ⟨k.before ++ k.gap, hwhole⟩
    refine ⟨ih.1.trans hafter, ?_⟩
    intro raw hraw
    rcases List.mem_cons.mp hraw with rfl | hraw
    · exact ⟨[], k.gap ++ k.after, by rw [List.nil_append, ← List.append_assoc]; exact hwhole⟩
    · exact (ih.2 raw hraw).trans hafter.isInfix

/-! ## Passages -/

/-- A raw passage as it counts: without the blanks at its ends, and not at all if none is left. -/
def piece (raw : Text) : List Text :=
  if raw.trim = [] then [] else [raw.trim]

/-- The passages of a whole text, the one behind the last gap included. -/
def passages (t : Text) : List Text :=
  t.split.1.flatMap piece ++ piece t.split.2

/-- The complete passages of a text, and what follows its last gap, without the blanks at its
ends. -/
def outline (t : Text) : List Text × Text :=
  (t.split.1.flatMap piece, t.split.2.trim)

theorem piece_congr {a b : Text} (h : a.trim = b.trim) : piece a = piece b := by
  unfold piece
  rw [h]

theorem passages_eq (t : Text) : passages t = (outline t).1 ++ piece (outline t).2 := by
  unfold passages outline
  rw [piece_congr (trim_trim t.split.2)]

theorem outline_of_first?_eq_none {t : Text} (h : Cut.first? t = none) :
    outline t = ([], t.trim) := by
  unfold outline
  rw [split_of_first?_eq_none h]
  rfl

theorem outline_of_first?_eq_some {t : Text} {k : Cut} (h : Cut.first? t = some k) :
    outline t = (piece k.before ++ (outline k.after).1, (outline k.after).2) := by
  unfold outline
  rw [split_of_first?_eq_some h, List.flatMap_cons]

/-- A blank in front of a text that starts no gap changes none of the passages. -/
theorem outline_cons_of_blank {c : Char} {t : Text} (hc : isBlank c = true)
    (h : Cut.here? c t = none) : outline (c :: t) = outline t := by
  have htrim (u : Text) : trim (c :: u) = trim u :=
    trim_blank_append (w := [c]) (by simpa using hc) u
  have hfirst : Cut.first? (c :: t) = (Cut.first? t).map (Cut.cons c) := by
    simp [Cut.first?, h]
  cases ht : Cut.first? t with
  | none =>
    rw [ht] at hfirst
    rw [outline_of_first?_eq_none hfirst, outline_of_first?_eq_none ht, htrim]
  | some k =>
    rw [ht] at hfirst
    rw [outline_of_first?_eq_some hfirst, outline_of_first?_eq_some ht]
    have hpiece : piece (Cut.cons c k).before = piece k.before := piece_congr (htrim k.before)
    rw [hpiece]
    rfl

/-- Blanks at the start of a text do not count, whatever gaps they hold. -/
theorem outline_trimStart (t : Text) : outline (trimStart t) = outline t := by
  match t with
  | [] => rfl
  | c :: rest =>
    by_cases hc : isBlank c = true
    · have htrim : trimStart (c :: rest) = trimStart rest :=
        trimStart_append_of_blank (w := [c]) (by simpa using hc) rest
      rw [htrim]
      cases hk : Cut.here? c rest with
      | none => rw [outline_cons_of_blank hc hk, outline_trimStart rest]
      | some k =>
        obtain ⟨hafter, ⟨hm, -⟩ | ⟨-, hbefore⟩⟩ := Cut.shape_of_here? hk
        · rw [Cut.not_blank_of_mark hm] at hc
          cases hc
        · have hfirst : Cut.first? (c :: rest) = some k := by simp [Cut.first?, hk]
          have hlt := Cut.length_after_lt hfirst
          rw [outline_of_first?_eq_some hfirst, hbefore, ← outline_trimStart k.after, hafter]
          rfl
    · unfold trimStart
      rw [List.dropWhile_cons_of_neg hc]
termination_by t.length
decreasing_by
  · exact Nat.lt_succ_self _
  · exact hlt

/-- What comes later leaves the passage in front of a gap as it is. -/
theorem outline_append_of_first? {t : Text} {k : Cut} (h : Cut.first? t = some k) (more : Text) :
    outline (t ++ more) =
      (piece k.before ++ (outline (k.after ++ more)).1, (outline (k.after ++ more)).2) := by
  obtain ⟨k', w, hk', hbefore, hw, hafter⟩ := Cut.first?_append h more
  have hpiece : piece k'.before = piece k.before := by
    apply piece_congr
    rw [hbefore, trim_append_blank _ hw]
  rw [outline_of_first?_eq_some hk', hpiece, ← outline_trimStart k'.after, hafter,
    outline_trimStart]

/-- The complete passages of a text are complete passages of every text that goes on from it, and
come first there. The others are those of its tail and what follows. -/
theorem outline_append (t more : Text) :
    outline (t ++ more) =
      ((outline t).1 ++ (outline (t.split.2 ++ more)).1, (outline (t.split.2 ++ more)).2) := by
  fun_induction split t with
  | case1 t h => rw [outline_of_first?_eq_none h, List.nil_append]
  | case2 t k h _ passages tail hs ih =>
    rw [outline_append_of_first? h, ih, hs, outline_of_first?_eq_some h, List.append_assoc]

/-- The passages of a text that goes on are the complete ones, and then those of its tail and what
follows. -/
theorem passages_append (t more : Text) :
    passages (t ++ more) = t.split.1.flatMap piece ++ passages (t.split.2 ++ more) := by
  rw [passages_eq, outline_append, passages_eq (t.split.2 ++ more), ← List.append_assoc]
  rfl

end Text

/-! ## The segments of a whole text -/

/-- The segments that hold something. -/
def nonEmpty (segments : List Segment) : List Segment :=
  segments.filter (·.text ≠ [])

theorem nonEmpty_append (a b : List Segment) : nonEmpty (a ++ b) = nonEmpty a ++ nonEmpty b :=
  List.filter_append a b

namespace Buffer

/-- A segment is what its passage is without the blanks at its ends. -/
theorem text_of_segment? {b : Buffer} {raw : Text} {segment : Segment}
    (h : b.segment? raw = some segment) : segment.text = raw.trim := by
  simp only [segment?, Option.ite_none_right_eq_some, Option.some.injEq] at h
  rw [← h.2]
  rfl

theorem size_of_segment? {b : Buffer} {raw : Text} {segment : Segment}
    (h : b.segment? raw = some segment) : b.minChars ≤ segment.size := by
  simp only [segment?, Option.ite_none_right_eq_some, Option.some.injEq] at h
  rw [← h.2]
  exact h.1

theorem key_of_segment? {b : Buffer} {raw : Text} {segment : Segment}
    (h : b.segment? raw = some segment) : segment.key = segment.text.take b.keyChars := by
  simp only [segment?, Option.ite_none_right_eq_some, Option.some.injEq] at h
  rw [← h.2]
  rfl

/-- A segment stands in the text that it was made from. -/
theorem infix_of_segment? {b : Buffer} {raw : Text} {segment : Segment}
    (h : b.segment? raw = some segment) : segment.text <:+: raw := by
  rw [text_of_segment? h]
  exact Text.trim_infix raw

/-- Segments have no blanks at their ends. -/
theorem trim_of_segment? {b : Buffer} {raw : Text} {segment : Segment}
    (h : b.segment? raw = some segment) : segment.text.trim = segment.text := by
  rw [text_of_segment? h]
  exact Text.trim_trim raw

theorem infix_of_mem_completed {b : Buffer} {segment : Segment} (h : segment ∈ b.completed.1) :
    segment.text <:+: b.text := by
  obtain ⟨raw, hraw, hsegment⟩ := List.mem_filterMap.mp h
  exact (infix_of_segment? hsegment).trans ((Text.split_infix b.text).2 raw hraw)

theorem size_of_mem_completed {b : Buffer} {segment : Segment} (h : segment ∈ b.completed.1) :
    b.minChars ≤ segment.size := by
  obtain ⟨raw, -, hsegment⟩ := List.mem_filterMap.mp h
  exact size_of_segment? hsegment

/-- Blanks at the ends of a passage make no difference to its segment. -/
theorem segment?_congr (b : Buffer) {raw raw' : Text} (h : raw.trim = raw'.trim) :
    b.segment? raw = b.segment? raw' := by
  unfold segment? Segment.ofRaw
  rw [h]

/-- A passage gives a segment that is not empty if it is long enough and not blank. -/
theorem nonEmpty_segment? (b : Buffer) (raw : Text) :
    nonEmpty (b.segment? raw).toList = (Text.piece raw).filterMap b.segment? := by
  have htrim : b.segment? raw.trim = b.segment? raw := b.segment?_congr (Text.trim_trim raw)
  unfold Text.piece nonEmpty
  cases hs : b.segment? raw with
  | none => split <;> simp [htrim, hs]
  | some segment =>
    have htext := text_of_segment? hs
    by_cases hn : raw.trim = []
    · simp [hn, htext]
    · simp [hn, htext, htrim, hs]

theorem nonEmpty_filterMap_segment? (b : Buffer) (raws : List Text) :
    nonEmpty (raws.filterMap b.segment?) = (raws.flatMap Text.piece).filterMap b.segment? := by
  induction raws with
  | nil => rfl
  | cons raw rest ih =>
    have hcons : (raw :: rest).filterMap b.segment? =
        (b.segment? raw).toList ++ rest.filterMap b.segment? := by
      rw [List.filterMap_cons]
      cases b.segment? raw <;> rfl
    rw [hcons, nonEmpty_append, nonEmpty_segment?, ih, List.flatMap_cons, List.filterMap_append]

/-- If segments need a character, none is empty. -/
theorem nonEmpty_eq_self {b : Buffer} (h : 1 ≤ b.minChars) {segments : List Segment}
    (hs : ∀ segment ∈ segments, b.minChars ≤ segment.size) : nonEmpty segments = segments := by
  unfold nonEmpty
  rw [List.filter_eq_self]
  intro segment hm
  have hsize : 1 ≤ segment.text.length := Nat.le_trans h (hs segment hm)
  exact decide_eq_true (List.ne_nil_of_length_pos hsize)

/-- The segments of the text when nothing more comes: the complete ones, and what is left. -/
def segments (b : Buffer) : List Segment :=
  b.completed.1 ++ b.takeCompleted.2.flush.1.toList

theorem completed_eq (b : Buffer) (h : 1 ≤ b.minChars) :
    b.completed.1 = (b.text.split.1.flatMap Text.piece).filterMap b.segment? := by
  rw [← nonEmpty_filterMap_segment?]
  exact (nonEmpty_eq_self h fun _ => size_of_mem_completed).symm

/-- The segments are the passages that are long enough. -/
theorem segments_eq (b : Buffer) (h : 1 ≤ b.minChars) :
    b.segments = b.text.passages.filterMap b.segment? := by
  unfold segments Text.passages
  rw [List.filterMap_append, completed_eq b h, ← nonEmpty_segment?]
  have hsize : ∀ segment ∈ (b.segment? b.text.split.2).toList, b.minChars ≤ segment.size :=
    fun _ hs => size_of_segment? (Option.mem_toList.mp hs)
  exact congrArg _ (nonEmpty_eq_self h hsize).symm

/-- Drawing the complete segments early loses nothing and changes nothing: with them in front, the
segments of what is left are those of the whole text, whatever comes later. -/
theorem segments_append (b : Buffer) (h : 1 ≤ b.minChars) (more : Text) :
    (b.append more).segments = b.completed.1 ++ (b.takeCompleted.2.append more).segments := by
  have hsegment (t : Text) : ({ b with text := t } : Buffer).segment? = b.segment? := rfl
  rw [segments_eq (b.append more) h, segments_eq (b.takeCompleted.2.append more) h,
    completed_eq b h]
  simp only [append, takeCompleted, completed, replace, hsegment]
  rw [Text.passages_append, List.filterMap_append]

end Buffer

end CueStream
