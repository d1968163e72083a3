-- Text that arrives piece by piece, and the segments that it falls into.
-- What follows the last gap stays in the buffer, since more text may still
-- belong to it.
import CueStream.Segment.Separator

namespace CueStream

/-! ## Segments -/

/-- A passage that is classified as one. -/
structure Segment where
  text : Text
  /-- What the segment is recognised by when it comes again. -/
  key : Text
  deriving DecidableEq, Repr

namespace Segment

/-- The segment of a raw passage: its blanks at both ends go, and its first `keyChars`
characters are its key. -/
def ofRaw (keyChars : Nat) (raw : Text) : Segment :=
  ⟨raw.trim, raw.trim.take keyChars⟩

/-- The length of the segment in characters. -/
def size (s : Segment) : Nat :=
  s.text.length

end Segment

/-! ## Splitting -/

/-- The passages of a text in front of its gaps, and what follows the last gap. -/
def Text.split (t : Text) : List Text × Text :=
  match h : Cut.first? t with
  | none => ([], t)
  | some k =>
    have := Cut.length_after_lt h
    let (passages, tail) := split k.after
    (k.before :: passages, tail)
termination_by t.length

/-- The text has a gap. -/
def Text.hasGap (t : Text) : Bool :=
  (Cut.first? t).isSome

theorem Text.split_of_first?_eq_none {t : Text} (h : Cut.first? t = none) : t.split = ([], t) := by
  rw [Text.split]
  split <;> simp_all

theorem Text.split_of_first?_eq_some {t : Text} {k : Cut} (h : Cut.first? t = some k) :
    t.split = (k.before :: k.after.split.1, k.after.split.2) := by
  rw [Text.split]
  split <;> simp_all

/-- Each passage costs the text at least the gap behind it. -/
theorem Text.length_split (t : Text) : t.split.2.length + t.split.1.length ≤ t.length := by
  fun_induction Text.split t with
  | case1 => simp
  | case2 t k h hlt passages tail hs ih =>
    simp only [hs] at ih
    simp only [List.length_cons]
    omega

theorem Text.length_split_lt {t : Text} (h : t.hasGap = true) : t.split.2.length < t.length := by
  obtain ⟨k, hk⟩ := Option.isSome_iff_exists.1 h
  have := Cut.length_after_lt hk
  have := Text.length_split k.after
  simp only [Text.split_of_first?_eq_some hk]
  omega

/-- What follows the last gap has no gap itself. -/
theorem Text.hasGap_split (t : Text) : t.split.2.hasGap = false := by
  fun_induction Text.split t with
  | case1 t h => simp [Text.hasGap, h]
  | case2 t k h hlt passages tail hs ih => simpa [hs] using ih

/-! ## The buffer -/

/-- Text on its way, and how it is turned into segments. -/
structure Buffer where
  text : Text := []
  /-- Segments with fewer characters are dropped. -/
  minChars : Nat := 12
  /-- The length of a segment's key. -/
  keyChars : Nat := 50
  deriving DecidableEq, Repr

namespace Buffer

/-- Adds text at the end. -/
def append (b : Buffer) (chunk : Text) : Buffer :=
  { b with text := b.text ++ chunk }

/-- Puts another text into the buffer. -/
def replace (b : Buffer) (text : Text) : Buffer :=
  { b with text := text }

def clear (b : Buffer) : Buffer :=
  b.replace []

/-- The buffer holds a segment that is complete. -/
def hasBoundary (b : Buffer) : Bool :=
  b.text.hasGap

/-- The segment of a raw passage, if it is long enough. -/
def segment? (b : Buffer) (raw : Text) : Option Segment :=
  let s := Segment.ofRaw b.keyChars raw
  if b.minChars ≤ s.size then some s else none

/-- The complete segments and the text behind them. -/
def completed (b : Buffer) : List Segment × Text :=
  (b.text.split.1.filterMap b.segment?, b.text.split.2)

/-- Takes the complete segments out. -/
def takeCompleted (b : Buffer) : List Segment × Buffer :=
  (b.completed.1, b.replace b.completed.2)

/-- Takes everything out as one last segment, whatever its gaps. -/
def flush (b : Buffer) : Option Segment × Buffer :=
  (b.segment? b.text, b.clear)

/-- Nothing complete is left after the complete segments were taken out. -/
@[simp]
theorem hasBoundary_takeCompleted (b : Buffer) : b.takeCompleted.2.hasBoundary = false :=
  Text.hasGap_split b.text

end Buffer

end CueStream
