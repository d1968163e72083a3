-- The cues that a character can act out, and the words for them. A gesture
-- moves the head, an expression moves the face. Each of the two has its own
-- channel, so that one never holds up the other.
import CueStream.Text.Lowercase

namespace CueStream

/-! ## Labels -/

/-- A movement of the head. -/
inductive Gesture where
  | nod
  | shakeHead
  | thinking
  deriving DecidableEq, Repr

/-- A look on the face. -/
inductive Expression where
  | smile
  | sad
  | angry
  | surprised
  deriving DecidableEq, Repr

namespace Gesture

def all : List Gesture := [.nod, .shakeHead, .thinking]

/-- The written name of the gesture. -/
def label : Gesture → Text
  | nod => "nod".toList
  | shakeHead => "shake_head".toList
  | thinking => "thinking".toList

/-- The length of the stock clip, in milliseconds. -/
def clipMs : Gesture → UInt64
  | nod => 1200
  | shakeHead => 1400
  | thinking => 2000

/-- The gesture with exactly this name. A head shake has two more names. -/
def ofName? (name : Text) : Option Gesture :=
  if name = "nod".toList then some .nod
  else if name = "shake_head".toList ∨ name = "shake-head".toList ∨ name = "shake".toList then
    some .shakeHead
  else if name = "thinking".toList then some .thinking
  else none

/-- The gesture that someone wrote, in any case and with blanks around it. -/
def ofWritten? (t : Text) : Option Gesture :=
  let name := t.trim.lowercase
  if name = "think".toList then some .thinking else ofName? name

@[simp]
theorem ofName?_label (g : Gesture) : ofName? g.label = some g := by
  cases g <;> decide

end Gesture

namespace Expression

def all : List Expression := [.smile, .sad, .angry, .surprised]

/-- The written name of the expression. -/
def label : Expression → Text
  | smile => "smile".toList
  | sad => "sad".toList
  | angry => "angry".toList
  | surprised => "surprised".toList

/-- The length of the stock clip, in milliseconds. -/
def clipMs : Expression → UInt64
  | smile => 1500
  | sad => 2000
  | angry => 1500
  | surprised => 1200

/-- The expression with exactly this name. -/
def ofName? (name : Text) : Option Expression :=
  all.find? fun e => e.label = name

/-- The expression that someone wrote, in any case and with blanks around it. -/
def ofWritten? (t : Text) : Option Expression :=
  ofName? t.trim.lowercase

@[simp]
theorem ofName?_label (e : Expression) : ofName? e.label = some e := by
  cases e <;> decide

end Expression

/-! ## Channels and triggers -/

/-- A lane with a cooldown of its own. -/
inductive Channel where
  | gesture
  | expression
  deriving DecidableEq, Repr

namespace Channel

def all : List Channel := [.gesture, .expression]

/-- The written name of the channel. -/
def label : Channel → Text
  | gesture => "gesture".toList
  | expression => "expression".toList

/-- What is said of a text that names no label of the channel. -/
def unknownLabel (c : Channel) (t : Text) : Text :=
  "unknown ".toList ++ c.label ++ " '".toList ++ t.trim.lowercase ++ "'".toList

end Channel

/-- Where a trigger came from. -/
inductive Source where
  /-- A keyword in the text that was just fed. -/
  | keyword
  /-- The classification of a finished segment. -/
  | classifier
  deriving DecidableEq, Repr

namespace Source

def all : List Source := [.keyword, .classifier]

/-- The written name of the source. -/
def label : Source → Text
  | keyword => "keyword".toList
  | classifier => "classifier".toList

end Source

/-- One cue to act out. -/
inductive Trigger where
  | gesture (g : Gesture)
  | expression (e : Expression)
  deriving DecidableEq, Repr

namespace Trigger

def channel : Trigger → Channel
  | gesture _ => .gesture
  | expression _ => .expression

def label : Trigger → Text
  | gesture g => g.label
  | expression e => e.label

/-- The length of the stock clip, in milliseconds. -/
def clipMs : Trigger → UInt64
  | gesture g => g.clipMs
  | expression e => e.clipMs

end Trigger

/-! ## Intents -/

/-- What a passage asks for: at most one cue on each channel. -/
structure Intent where
  gesture : Option Gesture := none
  expression : Option Expression := none
  deriving DecidableEq, Repr

namespace Intent

/-- The intent that asks for nothing. -/
def empty : Intent := {}

def isEmpty (i : Intent) : Bool :=
  i.gesture.isNone && i.expression.isNone

/-- Fills the channels that `i` leaves free from `j`. -/
def or (i j : Intent) : Intent :=
  ⟨i.gesture.or j.gesture, i.expression.or j.expression⟩

/-- The cues of the intent, the gesture first. -/
def triggers (i : Intent) : List Trigger :=
  (i.gesture.map Trigger.gesture).toList ++ (i.expression.map Trigger.expression).toList

end Intent

end CueStream
