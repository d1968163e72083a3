-- A lexicon names the keywords that stand for a cue. Of all entries with a
-- keyword in a text, the one with the highest priority wins; among equals,
-- the one that was registered first.
import CueStream.Text.Lowercase
import CueStream.Text.Word

namespace CueStream.Lexicon

open Text

/-! ## Keywords -/

/-- A keyword occurs in a text that is in lower case already. A keyword with an
ideograph, or of three characters and more, counts wherever it stands. A shorter
one has to be a word of its own. -/
def keywordMatches (lower keyword : Text) : Bool :=
  !keyword.isEmpty &&
    let k := keyword.lowercase
    if k.any isIdeograph then hasPart k lower
    else if k.length ≤ 2 then containsWord lower k
    else hasPart k lower

/-! ## Entries -/

/-- A cue, the keywords that stand for it, and its rank among the others. -/
structure Entry (L : Type) where
  label : L
  priority : Int
  keywords : List Text
  deriving DecidableEq, Repr

/-- An entry with its keywords written out as strings. -/
def Entry.ofStrings {L : Type} (label : L) (priority : Int) (keywords : List String) : Entry L :=
  ⟨label, priority, keywords.map String.toList⟩

/-- What was found in a text. The keyword is spelled as in the lexicon. -/
structure Hit (L : Type) where
  label : L
  keyword : Text
  priority : Int
  deriving DecidableEq, Repr

variable {L : Type}

/-- The first keyword of the entry that occurs in the text. -/
def Entry.hit? (lower : Text) (e : Entry L) : Option (Hit L) :=
  (e.keywords.find? (keywordMatches lower)).map fun k => ⟨e.label, k, e.priority⟩

/-- What is best after one more entry. An entry that does not outrank the best so far is
not looked at. -/
def better (lower : Text) (best : Option (Hit L)) (e : Entry L) : Option (Hit L) :=
  match best with
  | none => e.hit? lower
  | some b => if e.priority ≤ b.priority then some b else (e.hit? lower).or (some b)

/-- Among equals the one that was found first stays. -/
theorem better_of_le (lower : Text) {b : Hit L} {e : Entry L} (h : e.priority ≤ b.priority) :
    better lower (some b) e = some b := by
  simp [better, h]

/-- The best hit of the lexicon in a text. -/
def best? (text : Text) (lexicon : List (Entry L)) : Option (Hit L) :=
  if text.isEmpty then none
  else lexicon.foldl (better text.lowercase) none

end CueStream.Lexicon
