-- What the model's answer says about a passage. The answer should hold one
-- JSON object; whatever stands around it is passed over. A label that is not
-- known counts as none.
import CueStream.Classifier.Call
import CueStream.Classifier.Quick
import CueStream.Json.Reader
import CueStream.Text.Quoted

namespace CueStream.Classifier

/-! ## Failures -/

/-- Why a passage could not be classified. -/
inductive Failure where
  /-- The backend gave an error. -/
  | backend (message : Text)
  /-- The answer holds no object. -/
  | noObject (start : Text)
  /-- What looks like an object is not valid JSON. -/
  | invalidJson
  /-- The answer is JSON, but no object. -/
  | otherValue (start : Text)
  | crash
  deriving DecidableEq, Repr

namespace Failure

/-- What is said about the failure. Nothing is fixed about invalid JSON. -/
def message? : Failure → Option Text
  | backend m => some ("classification backend failed: ".toList ++ m)
  | noObject start => some ("no JSON object in classifier output: ".toList ++ Text.quoted start)
  | invalidJson => none
  | otherValue start => some ("classifier output has the wrong shape: ".toList ++ start)
  | crash => some "classification backend panicked".toList

end Failure

/-! ## Reading the answer -/

/-- The start of an answer, as it is shown in a message. -/
def shownStart (raw : Text) : Text :=
  raw.take 200

/-- The part of an answer from the first opening brace to the first closing brace behind it. -/
def span? (raw : Text) : Option Text :=
  let tail := raw.dropWhile (· ≠ '\x7b')
  if tail.contains '\x7d' then some (tail.takeWhile (· ≠ '\x7d') ++ ['\x7d']) else none

/-- The label that a member of the answer names. -/
def label? {L : Type} (ofWritten? : Text → Option L) (name : String) (v : Json) : Option L :=
  ((v.member? name.toList).bind Json.text?).bind ofWritten?

/-- What an answer says. -/
def parse (raw : Text) : Except Failure Intent :=
  match span? raw with
  | none => .error (.noObject (shownStart raw))
  | some span =>
    match Json.read? span with
    | none => .error .invalidJson
    | some (.object members) =>
      .ok ⟨label? Gesture.ofWritten? "gesture" (.object members),
        label? Expression.ofWritten? "expression" (.object members)⟩
    | some _ => .error (.otherValue (shownStart raw))

/-- What the end of a call says. -/
def outcome : Answer → Except Failure Intent
  | .text t => parse t
  | .error m => .error (.backend m)
  | .crash => .error .crash

/-- What the end of a call says to someone who does not ask why it failed. -/
def settled (a : Answer) : Intent :=
  match outcome a with
  | .ok i => i
  | .error _ => .empty

/-! ## Classifying with a model -/

/-- A result, and the calls that were made for it. -/
structure Asked (α : Type) where
  result : α
  calls : List Call

/-- The same calls, with a result made from theirs. -/
def Asked.map {α β : Type} (f : α → β) (a : Asked α) : Asked β :=
  ⟨f a.result, a.calls⟩

/-- What a model makes of a passage, or why it makes nothing of it. A passage that is too short
is not shown to the model. -/
def trySlow (config : CueConfig) (model : Call → Answer) (text : Text) :
    Asked (Except Failure Intent) :=
  match call? config text with
  | none => ⟨.ok .empty, []⟩
  | some call => ⟨outcome (model call), [call]⟩

/-- What a model makes of a passage. Every failure counts as nothing found. -/
def slow (config : CueConfig) (model : Call → Answer) (text : Text) : Asked Intent :=
  match call? config text with
  | none => ⟨.empty, []⟩
  | some call => ⟨settled (model call), [call]⟩

/-- Keywords first. The model is asked only about channels that they leave free. -/
def hybrid (config : CueConfig) (model : Call → Answer) (text : Text) : Asked Intent :=
  let found := quick text
  if found.gesture.isSome && found.expression.isSome then ⟨found, []⟩
  else (slow config model text).map found.or

end CueStream.Classifier
