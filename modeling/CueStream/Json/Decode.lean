-- From JSON values to values of the library. A record may be written as an
-- object or as an array of its fields in order. Members that it does not
-- know are passed over, whatever they hold; a field it does know may not
-- come twice.
import CueStream.Json.Reader

namespace CueStream.Json

/-! ## Values without parts -/

/-- A truth value. -/
def bool? : Json → Option Bool
  | .bool b => some b
  | _ => none

/-- An integer between the two bounds. -/
def int? (least greatest : Int) : Json → Option Int
  | .number n => n.int?.filter fun k => least ≤ k && k ≤ greatest
  | _ => none

/-- A natural number of at most this many bits. -/
def nat? (bits : Nat) (v : Json) : Option Nat :=
  (v.int? 0 (Nat.pow 2 bits - 1)).map Int.toNat

/-- A number in single precision. -/
def single? : Json → Option Single
  | .number n => n.single?
  | _ => none

/-- One of the names that `ofName?` knows: as a string, or as an object with that one name and
nothing to it. -/
def named? {α : Type} (ofName? : Text → Option α) : Json → Option α
  | .string (some name) => ofName? name
  | .object [(some name, .null)] => ofName? name
  | _ => none

/-! ## Lists and choices -/

/-- The list of the elements, if all of them can be decoded. -/
def list? {α : Type} (decode : Json → Option α) : Json → Option (List α)
  | .array items => items.mapM decode
  | _ => none

/-- Nothing for `null`. -/
def optional? {α : Type} (decode : Json → Option α) : Json → Option (Option α)
  | .null => some none
  | v => (decode v).map some

/-! ## Records -/

/-- The fields of a record that were given. -/
structure Record where
  /-- The record was written as an array. -/
  positional : Bool
  fields : List (Text × Json)

/-- The members of an object under their names, if every name spells a text. -/
def namedMembers? (members : List (Option Text × Json)) : Option (List (Text × Json)) :=
  members.mapM fun m => m.1.map fun name => (name, m.2)

/-- The record with these fields that a value holds. -/
def record? (names : List Text) : Json → Option Record
  | .array items =>
    if items.length ≤ names.length then some ⟨true, names.zip items⟩ else none
  | .object members => do
    let all ← namedMembers? members
    let known := all.filter fun m => names.contains m.1
    if (known.map (·.1)).Nodup then some ⟨false, known⟩ else none
  | _ => none

namespace Record

/-- What was given for a field. -/
def find? (r : Record) (name : Text) : Option Json :=
  r.fields.lookup name

/-- A field that has to be given. -/
def required {α : Type} (r : Record) (name : String) (decode : Json → Option α) : Option α :=
  (r.find? name.toList).bind decode

/-- A field with a value of its own if it is not given. -/
def withDefault {α : Type} (r : Record) (name : String) (default : α) (decode : Json → Option α) :
    Option α :=
  match r.find? name.toList with
  | some v => decode v
  | none => some default

/-- A field that may be `null`. In an object it may also be left out. -/
def optional {α : Type} (r : Record) (name : String) (decode : Json → Option α) :
    Option (Option α) :=
  match r.find? name.toList with
  | some v => v.optional? decode
  | none => if r.positional then none else some none

end Record

end CueStream.Json
