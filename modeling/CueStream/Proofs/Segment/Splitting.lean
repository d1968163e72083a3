-- Splitting a text loses nothing but blanks. The passages and the gaps behind
-- them, put together again with what follows the last gap, are the text; and no
-- part of it has a gap any more, also when the blanks at its ends are gone.
import CueStream.Proofs.Segment.Passage

namespace CueStream

open Unicode

namespace Cut

/-! ## A gap is blank -/

theorem blank_gap_of_here? {c : Char} {rest : Text} {k : Cut} (h : here? c rest = some k) :
    ∀ x ∈ k.gap, isBlank x = true := by
  unfold here? at h
  split at h
  · unfold afterMark? at h
    split at h
    · rename_i b blanks d after hb hd
      split at h
      · cases h
        intro x hx
        have hmem : x ∈ rest.takeWhile isBlank := hb ▸ hx
        exact List.mem_takeWhile_imp hmem
      · cases h
    · cases h
  · split at h
    · unfold atLineEnd? at h
      rw [Option.map_eq_some_iff] at h
      obtain ⟨⟨a, b⟩, hab, rfl⟩ := h
      intro x hx
      rcases List.mem_cons.mp hx with rfl | hx
      · decide
      · have hmem : x ∈ rest.takeWhile isBlank := by
          rw [← whole_of_lastLineEnd? hab]
          exact List.mem_append_left b hx
        exact List.mem_takeWhile_imp hmem
    · cases h

theorem blank_gap {t : Text} {k : Cut} (h : first? t = some k) : ∀ x ∈ k.gap, isBlank x = true := by
  induction t generalizing k with
  | nil => cases h
  | cons c rest ih =>
    simp only [first?, Option.or_eq_some_iff, Option.map_eq_some_iff] at h
    rcases h with h | ⟨-, k', hk', rfl⟩
    · exact blank_gap_of_here? h
    · have hgap : ∀ x ∈ k'.gap, isBlank x = true := ih hk'
      exact hgap

end Cut

namespace Text

/-! ## Parts of a text without a gap -/

/-- A gap that the beginning of a text has, the text has. -/
theorem hasGap_of_append {a b : Text} (h : (a ++ b).hasGap = false) : a.hasGap = false := by
  unfold hasGap at h ⊢
  cases hk : Cut.first? a with
  | none => rfl
  | some k =>
    obtain ⟨k', -, hk', -⟩ := Cut.first?_append hk b
    rw [hk'] at h
    cases h

/-- A gap that the end of a text has, the text has. -/
theorem hasGap_of_suffix {a b : Text} (hab : a <:+ b) (h : b.hasGap = false) :
    a.hasGap = false := by
  obtain ⟨front, rfl⟩ := hab
  induction front with
  | nil => exact h
  | cons c rest ih =>
    apply ih
    unfold hasGap at h ⊢
    rw [List.cons_append, Cut.first?, Option.isSome_or, Bool.or_eq_false_iff] at h
    rw [← h.2, Option.isSome_map]

theorem hasGap_of_infix {a b : Text} (hab : a <:+: b) (h : b.hasGap = false) :
    a.hasGap = false := by
  obtain ⟨front, rest, rfl⟩ := hab
  exact hasGap_of_suffix (List.suffix_append front a) (hasGap_of_append h)

/-- What stands before the first gap has none: it would be the first one of the text. -/
theorem hasGap_before {t : Text} {k : Cut} (h : Cut.first? t = some k) :
    k.before.hasGap = false := by
  unfold hasGap
  cases hk : Cut.first? k.before with
  | none => rfl
  | some inner =>
    obtain ⟨hinner, hgap⟩ := Cut.whole_of_first? hk
    obtain ⟨k', w, hk', hbefore, -⟩ := Cut.first?_append hk (k.gap ++ k.after)
    have hwhole : k.before ++ (k.gap ++ k.after) = t := by
      rw [← List.append_assoc]
      exact (Cut.whole_of_first? h).1
    rw [hwhole, h] at hk'
    cases hk'
    -- the inner gap starts where the first one does, but lies in front of it
    have hlen := congrArg List.length hinner
    have hpos := List.length_pos_iff.mpr hgap
    rw [Cut.whole, List.length_append, List.length_append, hbefore, List.length_append] at hlen
    omega

/-! ## What is not blank -/

/-- The characters of a text that are not blank. -/
def inked (t : Text) : Text :=
  t.filter fun c => !isBlank c

@[simp]
theorem inked_append (a b : Text) : inked (a ++ b) = inked a ++ inked b :=
  List.filter_append a b

theorem inked_of_blank {t : Text} (h : ∀ c ∈ t, isBlank c = true) : inked t = [] := by
  unfold inked
  rw [List.filter_eq_nil_iff]
  intro c hc
  simp [h c hc]

theorem inked_trim (t : Text) : inked t.trim = inked t := by
  obtain ⟨w, hw, hblank⟩ := trimStart_eq_trim_append t
  have hfront : ∀ c ∈ t.takeWhile isBlank, isBlank c = true := fun c hc =>
    List.mem_takeWhile_imp hc
  have hwhole : t.takeWhile isBlank ++ (t.trim ++ w) = t := by
    rw [← hw]
    exact List.takeWhile_append_dropWhile
  have hinked := congrArg inked hwhole
  rwa [inked_append, inked_append, inked_of_blank hfront, inked_of_blank hblank, List.nil_append,
    List.append_nil] at hinked

/-! ## All parts -/

/-- The text is these passages, each with the gap behind it, and the tail. The gaps are blank, and
nothing else has a gap. -/
structure Splits (t : Text) (parts : List (Text × Text)) (tail : Text) : Prop where
  whole : (parts.flatMap fun p => p.1 ++ p.2) ++ tail = t
  gaps : ∀ p ∈ parts, p.2 ≠ [] ∧ ∀ c ∈ p.2, isBlank c = true
  passages : ∀ p ∈ parts, p.1.hasGap = false
  tail : tail.hasGap = false

theorem exists_splits (t : Text) :
    ∃ parts, t.Splits parts t.split.2 ∧ parts.map Prod.fst = t.split.1 := by
  fun_induction split t with
  | case1 t h =>
    exact ⟨[], ⟨rfl, List.forall_mem_nil _, List.forall_mem_nil _, by simp [hasGap, h]⟩, rfl⟩
  | case2 t k h _ passages tail hs ih =>
    rw [hs] at ih
    obtain ⟨parts, hparts, hpassages⟩ := ih
    obtain ⟨hwhole, hgap⟩ := Cut.whole_of_first? h
    refine ⟨(k.before, k.gap) :: parts, ⟨?_, ?_, ?_, hparts.tail⟩, ?_⟩
    · rw [List.flatMap_cons, List.append_assoc, hparts.whole]
      exact hwhole
    · exact List.forall_mem_cons.mpr ⟨⟨hgap, Cut.blank_gap h⟩, hparts.gaps⟩
    · exact List.forall_mem_cons.mpr ⟨hasGap_before h, hparts.passages⟩
    · rw [List.map_cons, hpassages]

/-- A text has a gap if there is a passage. -/
theorem hasGap_iff_passages (t : Text) : t.hasGap = true ↔ t.split.1 ≠ [] := by
  unfold hasGap
  cases h : Cut.first? t with
  | none => simp [split_of_first?_eq_none h]
  | some k => simp [split_of_first?_eq_some h]

namespace Splits

variable {t tail : Text} {parts : List (Text × Text)}

/-- The tail ends the text, and a blank stands in front of it unless it is the text. -/
theorem front (h : t.Splits parts tail) :
    ∃ front, front ++ tail = t ∧ ∀ c ∈ front.getLast?, isBlank c = true := by
  refine ⟨_, h.whole, ?_⟩
  rcases List.eq_nil_or_concat' parts with rfl | ⟨earlier, last, rfl⟩
  · nofun
  · obtain ⟨hne, hblank⟩ := h.gaps last (by simp)
    have hlast : ((earlier ++ [last]).flatMap fun p => p.1 ++ p.2).getLast? = last.2.getLast? := by
      rw [List.flatMap_append, List.flatMap_singleton, ← List.append_assoc,
        List.getLast?_append_of_ne_nil _ hne]
    rw [hlast]
    exact fun c hc => hblank c (List.mem_of_getLast? hc)

/-- The tail is shorter than the text if there is a passage. -/
theorem byteLength_tail_lt_iff (h : t.Splits parts tail) :
    tail.byteLength < t.byteLength ↔ parts ≠ [] := by
  rw [← h.whole, byteLength_append]
  cases parts with
  | nil => simp
  | cons p rest =>
    obtain ⟨hne, -⟩ := h.gaps p List.mem_cons_self
    obtain ⟨c, gap, hgap⟩ := List.exists_cons_of_ne_nil hne
    have hpos := c.utf8Size_pos
    rw [List.flatMap_cons, byteLength_append, byteLength_append, hgap, byteLength_cons]
    simp only [ne_eq, reduceCtorEq, not_false_eq_true, iff_true]
    omega

/-- Nothing but blanks stands between the passages and in front of the tail. -/
theorem inked_eq (h : t.Splits parts tail) :
    inked t = (parts.flatMap fun p => inked p.1) ++ inked tail := by
  have hparts : ∀ ps : List (Text × Text), (∀ p ∈ ps, ∀ c ∈ p.2, isBlank c = true) →
      inked (ps.flatMap fun p => p.1 ++ p.2) = ps.flatMap fun p => inked p.1 := by
    intro ps hps
    induction ps with
    | nil => rfl
    | cons p rest ih =>
      obtain ⟨hp, hrest⟩ := List.forall_mem_cons.mp hps
      rw [List.flatMap_cons, List.flatMap_cons, inked_append, inked_append, inked_of_blank hp,
        List.append_nil, ih hrest]
  rw [← h.whole, inked_append, hparts parts fun p hp => (h.gaps p hp).2]

end Splits

end Text

namespace Buffer

/-! ## The segments of a buffer -/

/-- The segments are the passages without the blanks at their ends, as far as they are long
enough. -/
theorem filterMap_segment? (b : Buffer) (raws : List Text) :
    raws.filterMap b.segment? =
      (raws.map (Segment.ofRaw b.keyChars)).filter fun segment => b.minChars ≤ segment.size := by
  induction raws with
  | nil => rfl
  | cons raw rest ih =>
    rw [List.filterMap_cons, List.map_cons, List.filter_cons, ih]
    unfold segment?
    by_cases hsize : b.minChars ≤ (Segment.ofRaw b.keyChars raw).size
    · simp only [hsize, if_true, decide_true]
    · simp only [hsize, if_false, decide_false, Bool.false_eq_true]

theorem takeCompleted_of_not_boundary {b : Buffer} (h : b.hasBoundary = false) :
    b.takeCompleted = ([], b) := by
  have hfirst : Cut.first? b.text = none := by
    unfold hasBoundary Text.hasGap at h
    rwa [Option.isSome_eq_false_iff, Option.isNone_iff_eq_none] at h
  unfold takeCompleted completed replace
  rw [Text.split_of_first?_eq_none hfirst]
  rfl

end Buffer

end CueStream
