-- How cues are found: the cooldowns, the sizes of segments, the settings of
-- the model call and the two lexicons. Every setting has a default, so a
-- file only has to name the ones that differ.
import CueStream.Gate
import CueStream.Json.Decode
import CueStream.Json.Printer
import CueStream.Lexicon.Standard

namespace CueStream

/-- The settings of a session. -/
structure CueConfig where
  /-- The shortest time between two gestures. -/
  gestureCooldown : Millis := 4000
  /-- The shortest time between two expressions. -/
  expressionCooldown : Millis := 3000
  /-- Shorter segments are dropped. -/
  minSegmentChars : Nat := 12
  /-- Shorter passages are not shown to the model. -/
  minClassifyChars : Nat := 5
  /-- The length of the key that a repeated segment is recognised by. -/
  keyChars : Nat := 50
  /-- The model to ask. The backend has one of its own. -/
  model : Option Text := none
  temperature : Single := .ofQuotient false 1 10
  maxTokens : Nat := 60
  /-- A trigger also blocks its channel for the length of the stock clip. -/
  blockDuringPlayback : Bool := false
  gestures : List (Lexicon.Entry Gesture) := Lexicon.standardGestures
  expressions : List (Lexicon.Entry Expression) := Lexicon.standardExpressions
  deriving DecidableEq, Repr

namespace CueConfig

/-- The cooldown of a channel. -/
def cooldown (c : CueConfig) : Channel → Millis
  | .gesture => c.gestureCooldown
  | .expression => c.expressionCooldown

/-! ## Reading -/

/-- A time or a length of time. -/
def millis? (v : Json) : Option Millis :=
  (v.nat? 64).map UInt64.ofNat

/-- An entry of a lexicon whose labels are read by `label?`. -/
def entryOf? {L : Type} (label? : Text → Option L) (v : Json) : Option (Lexicon.Entry L) := do
  let r ← v.record? ["label".toList, "priority".toList, "keywords".toList]
  let label ← r.required "label" (Json.named? label?)
  let priority ← r.required "priority" (Json.int? (-2147483648) 2147483647)
  let keywords ← r.required "keywords" (Json.list? Json.text?)
  return ⟨label, priority, keywords⟩

/-- The names of the settings, in the order in which they are written. -/
def fieldNames : List Text :=
  ["gesture_cooldown_ms", "expression_cooldown_ms", "min_segment_chars", "min_classify_chars",
    "dedup_prefix_chars", "model", "temperature", "max_tokens", "block_during_playback",
    "gesture_lexicon", "expression_lexicon"].map String.toList

/-- The settings that a value holds. -/
def ofJson? (v : Json) : Option CueConfig := do
  let r ← v.record? fieldNames
  let d : CueConfig := {}
  let gestureCooldown ← r.withDefault "gesture_cooldown_ms" d.gestureCooldown millis?
  let expressionCooldown ← r.withDefault "expression_cooldown_ms" d.expressionCooldown millis?
  let minSegmentChars ← r.withDefault "min_segment_chars" d.minSegmentChars (Json.nat? 64)
  let minClassifyChars ← r.withDefault "min_classify_chars" d.minClassifyChars (Json.nat? 64)
  let keyChars ← r.withDefault "dedup_prefix_chars" d.keyChars (Json.nat? 64)
  let model ← r.withDefault "model" d.model (Json.optional? Json.text?)
  let temperature ← r.withDefault "temperature" d.temperature Json.single?
  let maxTokens ← r.withDefault "max_tokens" d.maxTokens (Json.nat? 32)
  let blockDuringPlayback ← r.withDefault "block_during_playback" d.blockDuringPlayback Json.bool?
  let gestures ← r.withDefault "gesture_lexicon" d.gestures (Json.list? (entryOf? Gesture.ofName?))
  let expressions ←
    r.withDefault "expression_lexicon" d.expressions (Json.list? (entryOf? Expression.ofName?))
  return { gestureCooldown, expressionCooldown, minSegmentChars, minClassifyChars, keyChars, model,
           temperature, maxTokens, blockDuringPlayback, gestures, expressions }

/-! ## Writing -/

/-- An entry of a lexicon. -/
def entryJson {L : Type} (label : L → Text) (e : Lexicon.Entry L) : Json :=
  Json.fields [("label", Json.str (label e.label)), ("priority", Json.ofInt e.priority),
    ("keywords", .array (e.keywords.map Json.str))]

/-- The value that holds the settings. -/
def toJson (c : CueConfig) : Json :=
  Json.fields [
    ("gesture_cooldown_ms", Json.ofNat c.gestureCooldown.toNat),
    ("expression_cooldown_ms", Json.ofNat c.expressionCooldown.toNat),
    ("min_segment_chars", Json.ofNat c.minSegmentChars),
    ("min_classify_chars", Json.ofNat c.minClassifyChars),
    ("dedup_prefix_chars", Json.ofNat c.keyChars),
    ("model", Json.ofOption c.model),
    ("temperature", Json.ofSingle c.temperature),
    ("max_tokens", Json.ofNat c.maxTokens),
    ("block_during_playback", .bool c.blockDuringPlayback),
    ("gesture_lexicon", .array (c.gestures.map (entryJson Gesture.label))),
    ("expression_lexicon", .array (c.expressions.map (entryJson Expression.label)))]

end CueConfig

end CueStream
