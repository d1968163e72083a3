-- The values of JSON. A string is kept as the text it spells. One whose
-- escapes name half a character spells none, and is kept as such: it may
-- stand where nobody reads it.
import CueStream.Number.Reading

namespace CueStream

/-- A value of JSON. The members of an object keep their order and may repeat a name. -/
inductive Json where
  | null
  | bool (b : Bool)
  | number (n : Numeral)
  | string (content : Option Text)
  | array (items : List Json)
  | object (members : List (Option Text × Json))
  deriving Repr

namespace Json

/-- A string with this text. -/
def str (t : Text) : Json := .string (some t)

/-- An object with these members. -/
def obj (members : List (Text × Json)) : Json :=
  .object (members.map fun m => (some m.1, m.2))

/-- The members of a record under the names of its fields. -/
def fields (ms : List (String × Json)) : Json :=
  obj (ms.map fun m => (m.1.toList, m.2))

/-- The text, or `null` if there is none. -/
def ofOption (t : Option Text) : Json :=
  match t with
  | some t => str t
  | none => .null

def ofNat (n : Nat) : Json := .number (.ofNat n)

def ofInt (n : Int) : Json := .number (.ofInt n)

/-- A number of single precision. One that is too large for it has no numeral. -/
def ofSingle (x : Single) : Json :=
  match x.numeral? with
  | some n => .number n
  | none => .null

/-! ## Values that can be kept whole -/

mutual

/-- How deep arrays and objects are nested, the outermost one counted. -/
def depth : Json → Nat
  | .array items => itemsDepth items + 1
  | .object members => membersDepth members + 1
  | _ => 0

def itemsDepth : List Json → Nat
  | [] => 0
  | v :: rest => max v.depth (itemsDepth rest)

def membersDepth : List (Option Text × Json) → Nat
  | [] => 0
  | (_, v) :: rest => max v.depth (membersDepth rest)

end

mutual

/-- Every string spells a text and every number is finite. -/
def meaningful : Json → Bool
  | .number n => n.isFinite
  | .string content => content.isSome
  | .array items => itemsMeaningful items
  | .object members => membersMeaningful members
  | _ => true

def itemsMeaningful : List Json → Bool
  | [] => true
  | v :: rest => v.meaningful && itemsMeaningful rest

def membersMeaningful : List (Option Text × Json) → Bool
  | [] => true
  | (name, v) :: rest => name.isSome && v.meaningful && membersMeaningful rest

end

/-- The deepest nesting of a value that is kept whole. -/
def maxDepth : Nat := 127

/-- The value can be kept whole: it has a meaning in all its parts and is not nested too deep. -/
def isPlain (v : Json) : Bool :=
  v.meaningful && v.depth ≤ maxDepth

/-! ## Looking inside -/

/-- The value of the last member with this name. -/
def member? (name : Text) : Json → Option Json
  | .object members => (members.reverse.find? fun m => m.1 = some name).map (·.2)
  | _ => none

/-- The element at this place. -/
def item? (i : Nat) : Json → Option Json
  | .array items => items[i]?
  | _ => none

/-- The text of a string. -/
def text? : Json → Option Text
  | .string content => content
  | _ => none

end Json

end CueStream
