-- The quick classification of a passage, by keywords alone. The labels are
-- tried in a fixed order, and the first one with a keyword in the passage is
-- taken.
import CueStream.Lexicon.Basic
import CueStream.Vocabulary

namespace CueStream.Classifier

private def words (ws : List String) : List Text :=
  ws.map String.toList

/-- The expressions in the order in which they are tried. -/
def quickExpressions : List (Expression × List Text) :=
  [ (.surprised, words ["wow", "whoa", "no way", "哇", "天哪"]),
    (.angry, words ["angry", "furious", "气死", "生气"]),
    (.sad, words ["sorry", "unfortunately", "sad", "难过", "抱歉"]),
    (.smile, words ["haha", "glad", "happy", "great", "哈哈", "开心"]) ]

/-- The gestures in the order in which they are tried. -/
def quickGestures : List (Gesture × List Text) :=
  [ (.shakeHead, words ["not really", "incorrect", "wrong", "不对"]),
    (.nod, words ["correct", "exactly", "of course", "没错", "是的"]),
    (.thinking, words ["hmm", "let me think", "perhaps", "嗯"]) ]

/-- The first label of the table with a keyword in a text of lower case. -/
def firstHit? {L : Type} (lower : Text) (table : List (L × List Text)) : Option L :=
  (table.find? fun row => row.2.any (Lexicon.keywordMatches lower)).map (·.1)

/-- What the keywords of a passage ask for. -/
def quick (text : Text) : Intent :=
  let lower := text.lowercase
  ⟨firstHit? lower quickGestures, firstHit? lower quickExpressions⟩

end CueStream.Classifier
