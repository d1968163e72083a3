-- An intent as it is kept in JSON: an object with a name or `null` for each
-- channel.
import CueStream.Json.Decode
import CueStream.Vocabulary

namespace CueStream.Intent

/-- The intent that a value holds. -/
def ofJson? (v : Json) : Option Intent := do
  let r ← v.record? ["gesture".toList, "expression".toList]
  let gesture ← r.optional "gesture" (Json.named? Gesture.ofName?)
  let expression ← r.optional "expression" (Json.named? Expression.ofName?)
  return { gesture, expression }

/-- The value that holds the intent. -/
def toJson (i : Intent) : Json :=
  Json.fields [("gesture", Json.ofOption (i.gesture.map Gesture.label)),
    ("expression", Json.ofOption (i.expression.map Expression.label))]

end CueStream.Intent
