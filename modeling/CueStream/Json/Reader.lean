-- Reading a JSON text. The words of the text are taken one after the other;
-- the arrays and objects that are still open are kept on a stack. What is
-- left at the end is the value, if the text holds exactly one.
import CueStream.Json.Token

namespace CueStream.Json

namespace Reader

/-- An array or object that is still open, with what it holds so far in reverse. -/
inductive Frame where
  | array (items : List Json)
  /-- The value of the member `name` comes next. -/
  | object (members : List (Option Text × Json)) (name : Option Text)

/-- What has to come next, inside the open arrays and objects. -/
inductive State where
  | value (context : List Frame)
  /-- The first element of an array, or its end. -/
  | firstItem (context : List Frame)
  /-- The first name of an object, or its end. -/
  | firstName (context : List Frame)
  /-- Another name of an object. -/
  | name (members : List (Option Text × Json)) (context : List Frame)
  /-- The colon behind a name. -/
  | colon (members : List (Option Text × Json)) (name : Option Text) (context : List Frame)
  /-- A value is read. A comma or an end comes next. -/
  | done (v : Json) (context : List Frame)

/-- A word where a value has to start. -/
def startValue (context : List Frame) : Token → Option State
  | .openArray => some (.firstItem context)
  | .openObject => some (.firstName context)
  | .string content => some (.done (.string content) context)
  | .scalar v => some (.done v context)
  | _ => none

/-- One word. There is no state for a word that may not come here. -/
def step : State → Token → Option State
  | .value context, k => startValue context k
  | .firstItem context, .closeArray => some (.done (.array []) context)
  | .firstItem context, k => startValue (.array [] :: context) k
  | .firstName context, .closeObject => some (.done (.object []) context)
  | .firstName context, .string name => some (.colon [] name context)
  | .name members context, .string name => some (.colon members name context)
  | .colon members name context, .colon => some (.value (.object members name :: context))
  | .done v (.array items :: context), .comma => some (.value (.array (v :: items) :: context))
  | .done v (.array items :: context), .closeArray =>
    some (.done (.array (v :: items).reverse) context)
  | .done v (.object members name :: context), .comma =>
    some (.name ((name, v) :: members) context)
  | .done v (.object members name :: context), .closeObject =>
    some (.done (.object ((name, v) :: members).reverse) context)
  | _, _ => none

/-- All words, from a state on. -/
def run (s : State) : List Token → Option State
  | [] => some s
  | k :: rest => (step s k).bind fun s => run s rest

/-- The value of a text that is read to its end. -/
def State.value? : State → Option Json
  | .done v [] => some v
  | _ => none

end Reader

/-- The value that a text spells. Strings and numbers in it need not have a meaning, and there
is no limit to its depth. -/
def skim? (t : Text) : Option Json :=
  (Token.all? t).bind fun words => (Reader.run (.value []) words).bind Reader.State.value?

/-- The value that a text spells, if it can be kept whole. -/
def read? (t : Text) : Option Json :=
  (skim? t).filter isPlain

end CueStream.Json
