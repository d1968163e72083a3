-- A value that was written on one line is the one that is read.
import CueStream.Proofs.Json.Object

namespace CueStream.Json

open Token

theorem apart_compactItems (items : List Json) : Apart (compactItems items) := by
  cases items with
  | nil => exact apart_nil
  | cons v items => exact apart_comma _

theorem apart_compactMembers (members : List (Option Text × Json)) :
    Apart (compactMembers members) := by
  cases members with
  | nil => exact apart_nil
  | cons m members => exact apart_comma _

/-- A name, a colon and a value. -/
theorem all?_member (name : Option Text) {t : Text} {ws : List Token} (h : all? t = some ws) :
    all? (quote name ++ ':' :: t) = some (.string name :: .colon :: ws) := by
  rw [all?_quote, all?_cons_sign (k := .colon) rfl, h]
  rfl

/-- A word on its own. -/
theorem all?_alone {t : Text} {k : Token} (h : all? (t ++ []) = (all? []).map (k :: ·)) :
    all? t = some [k] := by
  rwa [List.append_nil, all?.eq_1, Option.map_some] at h

mutual

/-- The line of a value holds its words. -/
theorem all?_compact : ∀ {v : Json}, v.Legible → all? (compact v) = some (words v)
  | .null, _ => all?_alone (all?_null [])
  | .bool b, _ => all?_alone (all?_boolText b [])
  | .number _, h => all?_alone (all?_text h apart_nil)
  | .string content, _ => all?_alone (all?_quote content [])
  | .array [], _ => by
    show all? ['[', ']'] = _
    rw [all?_openArray, all?_closeArray, all?.eq_1]
    rfl
  | .array (v :: items), h => by
    have hparts : all? (compact v ++ compactItems items) = some (words v ++ itemWords items) := by
      rw [all?_append (all?_compact h.1) (apart_compactItems items), all?_compactItems h.2,
        Option.map_some]
    rw [compact, words, List.append_assoc, List.cons_append, all?_openArray, ← List.append_assoc,
      all?_append_sign (k := .closeArray) rfl hparts all?.eq_1]
    rfl
  | .object [], _ => by
    show all? ['\x7b', '\x7d'] = _
    rw [all?_openObject, all?_closeObject, all?.eq_1]
    rfl
  | .object ((name, v) :: members), h => by
    have hparts : all? (compact v ++ compactMembers members) =
        some (words v ++ memberWords members) := by
      rw [all?_append (all?_compact h.1) (apart_compactMembers members), all?_compactMembers h.2,
        Option.map_some]
    have hinside := all?_member name
      (all?_append_sign (k := .closeObject) rfl hparts (b := []) all?.eq_1)
    rw [compact, words]
    simp only [List.cons_append, List.append_assoc] at hinside ⊢
    rw [all?_openObject, hinside]
    rfl

theorem all?_compactItems : ∀ {items : List Json}, ItemsLegible items →
    all? (compactItems items) = some (itemWords items)
  | [], _ => all?.eq_1
  | v :: items, h => by
    rw [compactItems, itemWords, List.cons_append, all?_comma,
      all?_append (all?_compact h.1) (apart_compactItems items), all?_compactItems h.2]
    rfl

theorem all?_compactMembers : ∀ {members : List (Option Text × Json)}, MembersLegible members →
    all? (compactMembers members) = some (memberWords members)
  | [], _ => all?.eq_1
  | (name, v) :: members, h => by
    have hparts : all? (compact v ++ compactMembers members) =
        some (words v ++ memberWords members) := by
      rw [all?_append (all?_compact h.1) (apart_compactMembers members), all?_compactMembers h.2,
        Option.map_some]
    have hmember := all?_member name hparts
    rw [compactMembers, memberWords]
    simp only [List.cons_append, List.append_assoc] at hmember ⊢
    rw [all?_comma, hmember]
    rfl

end

/-- A value is read from its line. -/
theorem skim?_compact {v : Json} (h : v.Legible) : skim? v.compact = some v :=
  skim?_eq_some_iff.mpr (all?_compact h)

/-- A member as it is written on one line. -/
theorem memberText_compact {m : Option Text × Json} (h : m.2.Legible) :
    MemberText m (quote m.1 ++ ':' :: m.2.compact) :=
  memberText_iff.mpr (all?_member m.1 (all?_compact h))

end CueStream.Json
