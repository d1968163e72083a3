-- Where a text falls into parts. A gap between two parts is a run of blanks
-- that holds two line ends, or the blanks between the mark that ends a
-- sentence and the capital letter or ideograph that begins the next one.
import CueStream.Text.Word

namespace CueStream

open Unicode Text

/-- The marks that end a sentence. -/
def sentenceEnds : List Char := ['.', '!', '?', '。', '！', '？']

/-- A character that begins a sentence: a capital of the Latin alphabet or an ideograph. -/
def isSentenceStart (c : Char) : Bool :=
  ('A' ≤ c && c ≤ 'Z') || isIdeograph c

/-- A text cut at a gap. -/
structure Cut where
  /-- What stands before the gap, with the mark that ends the sentence. -/
  before : Text
  gap : Text
  after : Text
  deriving DecidableEq, Repr

namespace Cut

/-- The cut of the text with one more character in front. -/
def cons (c : Char) (k : Cut) : Cut :=
  { k with before := c :: k.before }

/-- The text that was cut. -/
def whole (k : Cut) : Text :=
  k.before ++ k.gap ++ k.after

@[simp]
theorem whole_cons (c : Char) (k : Cut) : (k.cons c).whole = c :: k.whole := rfl

/-- The gap after a mark: all blanks up to the start of a sentence. -/
def afterMark? (mark : Char) (rest : Text) : Option Cut :=
  match rest.takeWhile isBlank, rest.dropWhile isBlank with
  | b :: blanks, c :: after =>
    if isSentenceStart c then some ⟨[mark], b :: blanks, c :: after⟩ else none
  | _, _ => none

/-- The part of a run of blanks up to its last line end, and what is left of the run. -/
def lastLineEnd? : Text → Option (Text × Text)
  | [] => none
  | c :: rest =>
    match lastLineEnd? rest with
    | some (a, b) => some (c :: a, b)
    | none => if c = '\n' then some (['\n'], rest) else none

/-- The gap that starts at a line end: the blanks up to the last line end among them, if
there is another one. -/
def atLineEnd? (rest : Text) : Option Cut :=
  (lastLineEnd? (rest.takeWhile isBlank)).map fun p =>
    ⟨[], '\n' :: p.1, p.2 ++ rest.dropWhile isBlank⟩

/-- The gap at the head of the text. -/
def here? (c : Char) (rest : Text) : Option Cut :=
  if sentenceEnds.contains c then afterMark? c rest
  else if c = '\n' then atLineEnd? rest
  else none

/-- The text cut at its first gap. -/
def first? : Text → Option Cut
  | [] => none
  | c :: rest => (here? c rest).or ((first? rest).map (cons c))

/-! ## A cut loses nothing, and its gap is not empty -/

theorem whole_of_lastLineEnd? {t a b : Text} (h : lastLineEnd? t = some (a, b)) : a ++ b = t := by
  induction t generalizing a b with
  | nil => simp [lastLineEnd?] at h
  | cons c rest ih =>
    simp only [lastLineEnd?] at h
    split at h
    · rename_i x y hxy
      cases h
      simp [ih hxy]
    · split at h
      · cases h
        simp_all
      · cases h

theorem whole_of_here? {c : Char} {rest : Text} {k : Cut} (h : here? c rest = some k) :
    k.whole = c :: rest ∧ k.gap ≠ [] := by
  simp only [here?] at h
  split at h
  · simp only [afterMark?] at h
    split at h
    · rename_i b blanks d after hb hd
      split at h
      · cases h
        refine ⟨?_, by simp⟩
        have := List.takeWhile_append_dropWhile (p := isBlank) (l := rest)
        rw [hb, hd] at this
        simp [whole, ← this]
      · cases h
    · cases h
  · split at h
    · rename_i hc
      simp only [atLineEnd?, Option.map_eq_some_iff, Prod.exists] at h
      obtain ⟨a, b, hab, rfl⟩ := h
      refine ⟨?_, by simp⟩
      have := whole_of_lastLineEnd? hab
      simp only [whole, List.nil_append, List.cons_append, hc, ← List.append_assoc, this,
        List.takeWhile_append_dropWhile]
    · cases h

theorem whole_of_first? {t : Text} {k : Cut} (h : first? t = some k) : k.whole = t ∧ k.gap ≠ [] := by
  induction t generalizing k with
  | nil => simp [first?] at h
  | cons c rest ih =>
    simp only [first?, Option.or_eq_some_iff, Option.map_eq_some_iff] at h
    rcases h with h | ⟨_, k', hk', rfl⟩
    · exact whole_of_here? h
    · exact ⟨by rw [whole_cons, (ih hk').1], (ih hk').2⟩

theorem length_after_lt {t : Text} {k : Cut} (h : first? t = some k) : k.after.length < t.length := by
  obtain ⟨hw, hg⟩ := whole_of_first? h
  have hlen := congrArg List.length hw
  have := List.length_pos_iff.2 hg
  simp only [whole, List.length_append] at hlen
  omega

end Cut

end CueStream
