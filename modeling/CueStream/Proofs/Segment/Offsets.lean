-- The search for gaps with byte offsets in place of texts. Every look at the
-- text is a slice of it, and a slice that ends past the text or inside a
-- character has no value. Such a slice is never asked for, and the gaps and the
-- segments are the ones that are found without offsets.
import CueStream.Proofs.Segment.Passage

namespace CueStream

open Unicode

namespace Text

/-! ## Slices -/

/-- The text from a byte offset on. There is none if the offset lies past the end or inside a
character. -/
def dropBytes? (t : Text) (start : Nat) : Option Text :=
  (t.splitAtByte? start).map Prod.snd

/-- The text between two byte offsets, if both are offsets of characters and in order. -/
def slice? (t : Text) (start stop : Nat) : Option Text :=
  if start ≤ stop then
    (t.dropBytes? start).bind fun rest => (rest.splitAtByte? (stop - start)).map Prod.fst
  else none

theorem dropBytes?_append (a b : Text) : (a ++ b).dropBytes? a.byteLength = some b := by
  unfold dropBytes?
  rw [splitAtByte?_append, Option.map_some]

theorem slice?_append (a b c : Text) :
    (a ++ (b ++ c)).slice? a.byteLength (a.byteLength + b.byteLength) = some b := by
  unfold slice?
  rw [if_pos (Nat.le_add_right _ _), dropBytes?_append, Option.bind_some, Nat.add_sub_cancel_left,
    splitAtByte?_append, Option.map_some]

/-- Where a slice may start, the text falls into two parts. -/
theorem exists_append_of_dropBytes? {t rest : Text} {start : Nat}
    (h : t.dropBytes? start = some rest) :
    ∃ front, t = front ++ rest ∧ front.byteLength = start := by
  unfold dropBytes? at h
  obtain ⟨⟨front, tail⟩, hsplit, rfl⟩ := Option.map_eq_some_iff.mp h
  exact ⟨front, eq_append_of_splitAtByte? hsplit⟩

/-! ## Looking for a gap -/

/-- The offset of the first character from `start` on that is not blank, or of the end. -/
def skipBlanks? (t : Text) (start : Nat) : Option Nat :=
  (t.dropBytes? start).map fun rest =>
    if rest.all isBlank then t.byteLength else start + byteLength (rest.takeWhile isBlank)

/-- The offset of the last line end. -/
def lastLineEndAt? : Text → Option Nat
  | [] => none
  | c :: rest =>
    match lastLineEndAt? rest with
    | some n => some (c.utf8Size + n)
    | none => if c = '\n' then some 0 else none

/-- The ends of the gap behind a mark that ends at the offset `after`, or `none` if there is none
there. A slice that does not exist leaves the whole without a value. -/
def gapAfterMark? (t : Text) (after : Nat) : Option (Option (Nat × Nat)) :=
  (t.skipBlanks? after).bind fun stop =>
    if after < stop then
      (t.dropBytes? stop).map fun rest =>
        if rest.head?.any isSentenceStart then some (after, stop) else none
    else some none

/-- The ends of the gap that begins with the line end at `pos`, and goes on at `after`. -/
def gapAtLineEnd? (t : Text) (pos after : Nat) : Option (Option (Nat × Nat)) :=
  (t.skipBlanks? after).bind fun stop =>
    (t.slice? after stop).map fun blanks =>
      (lastLineEndAt? blanks).map fun n => (pos, after + n + 1)

/-- The ends of the gap that the character `c` at the offset `pos` brings with it. -/
def gapAt? (t : Text) (c : Char) (pos : Nat) : Option (Option (Nat × Nat)) :=
  if sentenceEnds.contains c then t.gapAfterMark? (pos + c.utf8Size)
  else if c = '\n' then t.gapAtLineEnd? pos (pos + c.utf8Size)
  else some none

theorem lt_byteLength_of_dropBytes? {t rest : Text} {c : Char} {pos : Nat}
    (h : t.dropBytes? pos = some (c :: rest)) : pos < t.byteLength := by
  obtain ⟨front, rfl, rfl⟩ := exists_append_of_dropBytes? h
  have hpos := c.utf8Size_pos
  rw [byteLength_append, byteLength_cons]
  omega

/-- The ends of the first gap from an offset on, or `none` if there is no gap. A slice that does not
exist leaves the whole without a value. -/
def nextGap? (t : Text) (pos : Nat) : Option (Option (Nat × Nat)) :=
  match h : t.dropBytes? pos with
  | none => none
  | some [] => some none
  | some (c :: _) =>
    have := lt_byteLength_of_dropBytes? h
    have := c.utf8Size_pos
    match t.gapAt? c pos with
    | none => none
    | some (some ends) => some (some ends)
    | some none => nextGap? t (pos + c.utf8Size)
termination_by t.byteLength - pos

theorem nextGap?_of_nil {t : Text} {pos : Nat} (h : t.dropBytes? pos = some []) :
    t.nextGap? pos = some none := by
  rw [nextGap?]
  split <;> simp_all

theorem nextGap?_of_cons {t rest : Text} {c : Char} {pos : Nat}
    (h : t.dropBytes? pos = some (c :: rest)) :
    t.nextGap? pos = (t.gapAt? c pos).bind fun ends =>
      match ends with
      | some ends => some (some ends)
      | none => t.nextGap? (pos + c.utf8Size) := by
  rw [nextGap?]
  split
  · simp_all
  · simp_all
  · rename_i d tail hdrop
    rw [h] at hdrop
    cases hdrop
    rcases t.gapAt? c pos with _ | _ | ends <;> rfl

end Text

/-! ## Offsets and cuts -/

/-- The ends of the gap, when the text that was cut starts at this offset. -/
def Cut.ends (start : Nat) (k : Cut) : Nat × Nat :=
  (start + k.before.byteLength, start + k.before.byteLength + k.gap.byteLength)

namespace Text

theorem skipBlanks?_append (front rest : Text) :
    (front ++ rest).skipBlanks? front.byteLength =
      some (front.byteLength + byteLength (rest.takeWhile isBlank)) := by
  unfold skipBlanks?
  rw [dropBytes?_append, Option.map_some]
  split
  · rename_i hall
    rw [List.takeWhile_eq_self_iff.mpr (List.all_eq_true.mp hall), byteLength_append]
  · rfl

/-- The last line end is the last character of the part up to it. -/
theorem lastLineEndAt?_eq (t : Text) :
    (lastLineEndAt? t).map (· + 1) = (Cut.lastLineEnd? t).map fun p => byteLength p.1 := by
  induction t with
  | nil => rfl
  | cons c rest ih =>
    simp only [lastLineEndAt?, Cut.lastLineEnd?]
    cases hcut : Cut.lastLineEnd? rest with
    | none =>
      rw [hcut, Option.map_none, Option.map_eq_none_iff] at ih
      simp only [ih]
      split <;> rfl
    | some p =>
      rw [hcut, Option.map_some, Option.map_eq_some_iff] at ih
      obtain ⟨n, hn, hlen⟩ := ih
      rw [hn]
      simp only [Option.map_some, byteLength_cons, ← hlen, Nat.add_assoc]

/-- Behind a mark the gap is the run of blanks, if the right character comes after it. -/
theorem gapAfterMark?_append (front rest : Text) (c : Char) :
    ((front ++ [c]) ++ rest).gapAfterMark? (byteLength (front ++ [c])) =
      some ((Cut.afterMark? c rest).map (Cut.ends front.byteLength)) := by
  have hblanks := List.takeWhile_append_dropWhile (p := isBlank) (l := rest)
  have hdrop : ((front ++ [c]) ++ rest).dropBytes?
      (byteLength (front ++ [c]) + byteLength (rest.takeWhile isBlank)) =
        some (rest.dropWhile isBlank) := by
    have := dropBytes?_append ((front ++ [c]) ++ rest.takeWhile isBlank) (rest.dropWhile isBlank)
    rwa [List.append_assoc, hblanks, byteLength_append] at this
  unfold gapAfterMark? Cut.afterMark?
  rw [skipBlanks?_append, Option.bind_some, hdrop]
  cases htake : rest.takeWhile isBlank with
  | nil => simp
  | cons b blanks =>
    have hpos := b.utf8Size_pos
    rw [if_pos (by rw [byteLength_cons]; omega), Option.map_some]
    cases rest.dropWhile isBlank with
    | nil => rfl
    | cons d after =>
      by_cases hd : isSentenceStart d = true
      · simp [hd, Cut.ends]
      · simp [hd]

/-- At a line end the gap goes on to the last line end of the run of blanks. -/
theorem gapAtLineEnd?_append (front rest : Text) :
    ((front ++ ['\n']) ++ rest).gapAtLineEnd? front.byteLength (byteLength (front ++ ['\n'])) =
      some ((Cut.atLineEnd? rest).map (Cut.ends front.byteLength)) := by
  have hslice := slice?_append (front ++ ['\n']) (rest.takeWhile isBlank) (rest.dropWhile isBlank)
  rw [List.takeWhile_append_dropWhile] at hslice
  have hlast := lastLineEndAt?_eq (rest.takeWhile isBlank)
  unfold gapAtLineEnd? Cut.atLineEnd?
  rw [skipBlanks?_append, Option.bind_some, hslice, Option.map_some]
  cases hcut : Cut.lastLineEnd? (rest.takeWhile isBlank) with
  | none =>
    rw [hcut, Option.map_none, Option.map_eq_none_iff] at hlast
    rw [hlast]
    rfl
  | some p =>
    rw [hcut, Option.map_some, Option.map_eq_some_iff] at hlast
    obtain ⟨n, hn, hlen⟩ := hlast
    rw [hn]
    simp only [Option.map_some, Cut.ends, byteLength_append, byteLength_cons, byteLength_nil, ← hlen]
    congr 3
    omega

/-- The gap at a character is the one that the characters behind it show. -/
theorem gapAt?_append (front rest : Text) (c : Char) :
    (front ++ c :: rest).gapAt? c front.byteLength =
      some ((Cut.here? c rest).map (Cut.ends front.byteLength)) := by
  have hwhole : front ++ c :: rest = (front ++ [c]) ++ rest := by simp
  have hafter : front.byteLength + c.utf8Size = byteLength (front ++ [c]) := by simp
  unfold gapAt? Cut.here?
  rw [hwhole, hafter]
  split
  · exact gapAfterMark?_append front rest c
  · split
    · rename_i hc
      subst hc
      exact gapAtLineEnd?_append front rest
    · rfl

/-- The first gap from an offset on is the first gap of the text that starts there. -/
theorem nextGap?_append (front t : Text) :
    (front ++ t).nextGap? front.byteLength =
      some ((Cut.first? t).map (Cut.ends front.byteLength)) := by
  induction t generalizing front with
  | nil => rw [nextGap?_of_nil (dropBytes?_append front [])]; rfl
  | cons c rest ih =>
    have hnext := ih (front ++ [c])
    rw [List.append_assoc, List.singleton_append, byteLength_append, byteLength_cons,
      byteLength_nil, Nat.add_zero] at hnext
    rw [nextGap?_of_cons (dropBytes?_append front (c :: rest)), gapAt?_append, Option.bind_some,
      Cut.first?]
    cases Cut.here? c rest with
    | some k => rfl
    | none =>
      simp only [Option.map_none, hnext, Option.none_or]
      cases Cut.first? rest with
      | none => rfl
      | some k => simp [Cut.ends, Cut.cons, Nat.add_assoc]

/-- A gap that is found lies behind the offset from which it was looked for, and is not empty. -/
theorem lt_of_nextGap? {t : Text} {pos start stop : Nat}
    (h : t.nextGap? pos = some (some (start, stop))) : pos < stop ∧ stop ≤ t.byteLength := by
  have hdrop : ∃ rest, t.dropBytes? pos = some rest := by
    rw [nextGap?] at h
    split at h
    · cases h
    · exact ⟨_, by assumption⟩
    · exact ⟨_, by assumption⟩
  obtain ⟨rest, hrest⟩ := hdrop
  obtain ⟨front, rfl, rfl⟩ := exists_append_of_dropBytes? hrest
  rw [nextGap?_append, Option.some_inj, Option.map_eq_some_iff] at h
  obtain ⟨k, hk, hends⟩ := h
  cases hends
  obtain ⟨hwhole, hgap⟩ := Cut.whole_of_first? hk
  obtain ⟨c, gap, hcons⟩ := List.exists_cons_of_ne_nil hgap
  have hlen := congrArg byteLength hwhole
  have hpos := c.utf8Size_pos
  simp only [Cut.whole, hcons, byteLength_append, byteLength_cons] at hlen ⊢
  omega

end Text

/-! ## Segments by offsets -/

namespace Buffer

/-- The complete segments from an offset on and the text behind them, by byte offsets. A slice that
does not exist leaves the whole without a value. -/
def completedFrom? (b : Buffer) (start : Nat) : Option (List Segment × Text) :=
  match h : b.text.nextGap? start with
  | none => none
  | some none => (b.text.dropBytes? start).map fun tail => ([], tail)
  | some (some (gapStart, gapStop)) =>
    have := Text.lt_of_nextGap? h
    (b.text.slice? start gapStart).bind fun raw =>
      (completedFrom? b gapStop).map fun p => ((b.segment? raw).toList ++ p.1, p.2)
termination_by b.text.byteLength - start

theorem completedFrom?_of_none {b : Buffer} {start : Nat} (h : b.text.nextGap? start = some none) :
    b.completedFrom? start = (b.text.dropBytes? start).map fun tail => ([], tail) := by
  rw [completedFrom?]
  split <;> simp_all

theorem completedFrom?_of_some {b : Buffer} {start gapStart gapStop : Nat}
    (h : b.text.nextGap? start = some (some (gapStart, gapStop))) :
    b.completedFrom? start = (b.text.slice? start gapStart).bind fun raw =>
      (b.completedFrom? gapStop).map fun p => ((b.segment? raw).toList ++ p.1, p.2) := by
  rw [completedFrom?]
  split <;> simp_all

theorem completedFrom?_append (b : Buffer) {front t : Text} (h : b.text = front ++ t) :
    b.completedFrom? front.byteLength = some (t.split.1.filterMap b.segment?, t.split.2) := by
  have hgap := Text.nextGap?_append front t
  rw [← h] at hgap
  fun_induction Text.split t generalizing front with
  | case1 t hnone =>
    rw [hnone, Option.map_none] at hgap
    rw [completedFrom?_of_none hgap, h, Text.dropBytes?_append]
    rfl
  | case2 t k hk _ passages tail hs ih =>
    rw [hk, Option.map_some] at hgap
    obtain ⟨hwhole, -⟩ := Cut.whole_of_first? hk
    have htext : b.text = front ++ (k.before ++ (k.gap ++ k.after)) := by
      rw [h, ← hwhole, Cut.whole, List.append_assoc]
    have hbehind : b.text = (front ++ (k.before ++ k.gap)) ++ k.after := by
      rw [htext]
      simp only [List.append_assoc]
    have hstop : front.byteLength + k.before.byteLength + k.gap.byteLength =
        Text.byteLength (front ++ (k.before ++ k.gap)) := by
      simp only [Text.byteLength_append, Nat.add_assoc]
    have hslice : b.text.slice? front.byteLength (front.byteLength + k.before.byteLength) =
        some k.before := by
      rw [htext, Text.slice?_append]
    have hrest := ih hbehind (by rw [hbehind, Text.nextGap?_append])
    rw [hs, ← hstop] at hrest
    rw [completedFrom?_of_some hgap, hslice, Option.bind_some, hrest, Option.map_some,
      List.filterMap_cons]
    cases b.segment? k.before <;> rfl

/-- Splitting by byte offsets comes to an end, asks for no slice that does not exist, and gives the
complete segments. -/
theorem completedFrom?_zero (b : Buffer) : b.completedFrom? 0 = some b.completed :=
  b.completedFrom?_append (List.nil_append b.text).symm

end Buffer

end CueStream
