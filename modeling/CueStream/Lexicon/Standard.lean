-- The lexicons that are used when none are configured.
import CueStream.Lexicon.Basic
import CueStream.Vocabulary

namespace CueStream.Lexicon

/-- The keywords of the gestures. -/
def standardGestures : List (Entry Gesture) :=
  [ .ofStrings .shakeHead 6
      ["incorrect", "not really", "not quite", "disagree", "don't think", "that's not",
        "wrong", "nope", "no", "不对", "不是", "错了", "不行"],
    .ofStrings .nod 5
      ["correct", "absolutely", "certainly", "of course", "indeed", "exactly",
        "definitely", "i agree", "that's right", "yeah", "ok", "没错", "对的", "是的", "当然",
        "好的"],
    .ofStrings .thinking 4
      ["hmm", "let me think", "perhaps", "maybe", "possibly", "i wonder", "interesting",
        "嗯", "让我想想", "也许", "或许"] ]

/-- The keywords of the expressions. -/
def standardExpressions : List (Entry Expression) :=
  [ .ofStrings .angry 8
      ["angry", "furious", "annoyed", "frustrat", "outrageous", "infuriat", "生气", "气死",
        "愤怒"],
    .ofStrings .surprised 7
      ["wow", "whoa", "incredible", "unbelievable", "unexpected", "omg", "astonish",
        "shock", "哇", "天哪", "竟然", "居然"],
    .ofStrings .sad 6
      ["sad", "sorry", "unfortunately", "regret", "disappoint", "heartbreak", "难过",
        "伤心", "遗憾", "抱歉"],
    .ofStrings .smile 5
      ["happy", "glad", "great", "wonderful", "awesome", "delighted", "enjoy", "haha",
        "开心", "高兴", "哈哈", "太好了"] ]

end CueStream.Lexicon
