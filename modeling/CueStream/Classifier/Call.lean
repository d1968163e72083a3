-- What the model is asked about a passage, and what it may answer.
import CueStream.Config.Cue

namespace CueStream

/-- A message of a conversation. -/
structure Message where
  role : Text
  content : Text
  deriving DecidableEq, Repr

namespace Message

/-- A message with instructions. -/
def system (content : Text) : Message := ⟨"system".toList, content⟩

/-- A message of the one who asks. -/
def user (content : Text) : Message := ⟨"user".toList, content⟩

end Message

/-- What a call may ask for. The backend fills in what is left open. -/
structure CallOptions where
  model : Option Text := none
  temperature : Option Single := none
  maxTokens : Option Nat := none
  deriving DecidableEq, Repr

/-- How a call to the model ends. -/
inductive Answer where
  | text (t : Text)
  | error (message : Text)
  /-- The backend broke down in the middle of the call. -/
  | crash
  deriving DecidableEq, Repr

namespace Classifier

/-- The instructions that come with every passage. -/
def instructions : Text :=
  "\n".toList.intercalate <| List.map String.toList
    ["You are an animation cue analyzer for a virtual character.",
      "You receive one short passage the character is saying.",
      "Decide which head gesture and which facial expression fit the passage, if any.",
      "Return JSON only. No explanation.",
      "",
      "Schema:",
      "\x7b",
      "  \"gesture\": null | \"nod\" | \"shake_head\" | \"thinking\",",
      "  \"expression\": null | \"smile\" | \"sad\" | \"angry\" | \"surprised\"",
      "\x7d",
      "",
      "Rules:",
      "- \"nod\" for agreement or confirmation, \"shake_head\" for disagreement or denial, \"thinking\" for pondering or uncertainty.",
      "- Only pick an expression when the emotion is clearly stated or strongly implied.",
      "- When unsure, use null. A missing animation is better than a wrong one."]

/-- One question to the model. -/
structure Call where
  messages : List Message
  options : CallOptions
  deriving DecidableEq, Repr

/-- The message that shows a passage to the model. -/
def passageMessage (passage : Text) : Message :=
  .user ("Passage:\n".toList ++ passage)

/-- The question about a passage, if it is long enough to be shown to the model. -/
def call? (config : CueConfig) (text : Text) : Option Call :=
  let passage := text.trim
  if passage.length < config.minClassifyChars then none
  else some
    { messages := [.system instructions, passageMessage passage]
      options := ⟨config.model, some config.temperature, some config.maxTokens⟩ }

end Classifier

end CueStream
