-- The cue that a whole response is most about. Each cue has a list of
-- patterns, and its score is the number of patterns that occur.
import CueStream.Text.Word
import CueStream.Vocabulary

namespace CueStream.Classifier

open Text

/-- A word, or the start of words. -/
structure Pattern where
  bound : Bound
  text : Text
  deriving DecidableEq, Repr

namespace Pattern

/-- A pattern as it is written down: a star stands for any way a word may go on. -/
def ofText (t : Text) : Pattern :=
  if t.getLast? = some '*' then ⟨.stem, t.dropLast⟩ else ⟨.word, t⟩

/-- The pattern occurs in a text of lower case. -/
def occurs (lower : Text) (p : Pattern) : Bool :=
  bounded p.bound p.text lower

end Pattern

/-- A cue with the patterns that speak for it. -/
structure Category where
  trigger : Trigger
  patterns : List Pattern
  deriving DecidableEq, Repr

/-- The number of patterns that occur in a text of lower case. -/
def Category.score (lower : Text) (c : Category) : Nat :=
  c.patterns.countP (Pattern.occurs lower)

private def patterns (ps : List String) : List Pattern :=
  ps.map fun p => .ofText p.toList

/-- The categories. Of two with the same score the first one counts. -/
def categories : List Category :=
  [ ⟨.expression .smile, patterns
      ["happy", "glad", "great", "wonderful", "awesome", "love", "enjoy", "excited",
       "fantastic", "excellent", "amazing", "delighted", "thrill*", "cheer*",
       "pleasur*", "joy", "haha", "lol"]⟩,
    ⟨.expression .sad, patterns
      ["sad", "sorry", "unfortunately", "regret", "disappoint*", "missing", "missed",
       "unhappy", "tragic*", "griev*", "heartbreak*"]⟩,
    ⟨.expression .angry, patterns
      ["angry", "furious", "annoy*", "frustrat*", "irritat*", "rage", "infuriat*",
       "outrag*"]⟩,
    ⟨.expression .surprised, patterns
      ["wow", "incredible", "unbelievable", "unexpect*", "shock*", "astound*",
       "astonish*", "whoa", "omg"]⟩,
    ⟨.gesture .nod, patterns
      ["yes", "sure", "absolutely", "certainly", "of course", "indeed", "correct",
       "agree", "definitely", "exactly"]⟩,
    ⟨.gesture .shakeHead, patterns
      ["don't think", "dont think", "incorrect", "wrong", "disagree", "not really",
       "not quite", "that's not", "thats not"]⟩,
    ⟨.gesture .thinking, patterns
      ["hmm*", "let me think", "consider*", "perhaps", "maybe", "possibly", "wonder",
       "interesting", "interestingly"]⟩ ]

/-- What is strongest after one more category. -/
def stronger (lower : Text) (best : Option (Trigger × Nat)) (c : Category) :
    Option (Trigger × Nat) :=
  let score := c.score lower
  if 0 < score ∧ best.all (fun b => b.2 < score) then some (c.trigger, score) else best

/-- The smallest score that counts, unless another one is asked for. -/
def standardMinScore : Nat := 2

/-- The cue with the greatest score, if it reaches `minScore`. No cue goes without any pattern. -/
def dominant? (text : Text) (minScore : Nat) : Option Trigger :=
  ((categories.foldl (stronger text.lowercase) none).filter fun b => max minScore 1 ≤ b.2).map
    (·.1)

end CueStream.Classifier
