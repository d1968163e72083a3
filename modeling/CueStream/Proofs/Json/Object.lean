-- The text of an object, member by member: braces around it, a comma between
-- each two members, a colon between a name and its value, and blanks wherever
-- one likes. A text is read as an object exactly if it is such a text.
import CueStream.Proofs.Json.Exact
import Mathlib.Data.List.Forall2

namespace CueStream.Json

open Token

/-! ## The text of an object -/

/-- The text of a member: its name and its value with a colon between them, each with any blanks
around it. -/
def MemberText (m : Option Text × Json) (t : Text) : Prop :=
  ∃ name value, t = name ++ ':' :: value ∧ skim? name = some (.string m.1) ∧
    skim? value = some m.2

/-- What stands between the braces: blanks, or members with a comma between each two of them. -/
def InsideText : List (Option Text × Json) → Text → Prop
  | [], t => Spaces t
  | m :: members, t =>
    ∃ texts, List.Forall₂ MemberText (m :: members) texts ∧ t = Text.joinWith ',' texts

/-- The text of an object with these members, with any blanks around it. -/
def ObjectText (members : List (Option Text × Json)) (t : Text) : Prop :=
  ∃ before inside behind, t = before ++ '\x7b' :: (inside ++ '\x7d' :: behind) ∧
    Spaces before ∧ InsideText members inside ∧ Spaces behind

/-! ## The words of an object -/

theorem memberText_iff {m : Option Text × Json} {t : Text} :
    MemberText m t ↔ all? t = some (.string m.1 :: .colon :: words m.2) := by
  constructor
  · rintro ⟨name, value, rfl, hname, hvalue⟩
    exact all?_append_sign (k := .colon) rfl (skim?_eq_some_iff.mp hname)
      (skim?_eq_some_iff.mp hvalue)
  · intro h
    have hcut : all? t = some ([.string m.1] ++ .colon :: words m.2) := h
    obtain ⟨name, value, rfl, hname, hvalue⟩ := exists_cut_sign rfl hcut
    exact ⟨name, value, rfl, skim?_eq_some_iff.mpr hname, skim?_eq_some_iff.mpr hvalue⟩

theorem joinWith_cons (c : Char) (a : Text) {texts : List Text} (h : texts ≠ []) :
    Text.joinWith c (a :: texts) = a ++ c :: Text.joinWith c texts := by
  cases texts with
  | nil => exact absurd rfl h
  | cons b texts => rfl

/-- Members with a comma between each two of them. -/
theorem exists_texts_iff {m : Option Text × Json} {members : List (Option Text × Json)} {t : Text} :
    (∃ texts, List.Forall₂ MemberText (m :: members) texts ∧ t = Text.joinWith ',' texts) ↔
      all? t = some (.string m.1 :: .colon :: words m.2 ++ memberWords members) := by
  induction members generalizing m t with
  | nil =>
    rw [memberWords, List.append_nil, ← memberText_iff]
    constructor
    · rintro ⟨_, _ | ⟨hm, _ | _⟩, rfl⟩
      exact hm
    · intro hm
      exact ⟨[t], .cons hm .nil, rfl⟩
  | cons next members ih =>
    rw [memberWords]
    constructor
    · rintro ⟨_, _ | ⟨hm, hrest⟩, rfl⟩
      rename_i a texts
      rw [joinWith_cons _ _ (by rintro rfl; cases hrest)]
      exact all?_append_sign (k := .comma) rfl (memberText_iff.mp hm) (ih.mp ⟨texts, hrest, rfl⟩)
    · intro h
      obtain ⟨a, b, rfl, ha, hb⟩ := exists_cut_sign rfl h
      obtain ⟨texts, hrest, rfl⟩ := ih.mpr hb
      refine ⟨a :: texts, .cons (memberText_iff.mpr ha) hrest, ?_⟩
      rw [joinWith_cons _ _ (by rintro rfl; cases hrest)]

/-- The words between the braces of an object. -/
def insideWords : List (Option Text × Json) → List Token
  | [] => []
  | m :: members => .string m.1 :: .colon :: words m.2 ++ memberWords members

theorem words_object (members : List (Option Text × Json)) :
    words (.object members) = .openObject :: (insideWords members ++ [.closeObject]) := by
  cases members with
  | nil => rfl
  | cons m members => rfl

theorem insideText_iff {members : List (Option Text × Json)} {t : Text} :
    InsideText members t ↔ all? t = some (insideWords members) := by
  cases members with
  | nil => exact all?_eq_nil_iff.symm
  | cons m members => exact exists_texts_iff

/-- What is read as an object is written member by member. -/
theorem skim?_eq_object_iff {members : List (Option Text × Json)} {t : Text} :
    skim? t = some (.object members) ↔ ObjectText members t := by
  rw [skim?_eq_some_iff, words_object]
  constructor
  · intro h
    obtain ⟨before, rest, rfl, hbefore, hrest⟩ := exists_sign rfl h
    obtain ⟨inside, behind, rfl, hinside, hbehind⟩ := exists_cut_sign rfl hrest
    exact ⟨before, inside, behind, rfl, hbefore, insideText_iff.mpr hinside,
      all?_eq_nil_iff.mp hbehind⟩
  · rintro ⟨before, inside, behind, rfl, hbefore, hinside, hbehind⟩
    have hrest : all? (inside ++ '\x7d' :: behind) = some (insideWords members ++ [.closeObject]) :=
      all?_append_sign rfl (insideText_iff.mp hinside) (all?_eq_nil_iff.mpr hbehind)
    rw [all?_spaces hbefore, all?_cons_sign (k := .openObject) rfl, hrest, Option.map_some]

/-! ## Where an object ends -/

/-- A value that is written from a brace on is an object. -/
theorem exists_object_of_brace {t : Text} {v : Json} (h : skim? ('\x7b' :: t) = some v) :
    ∃ members, v = .object members := by
  have hwords := skim?_eq_some_iff.mp h
  rw [all?_cons_sign (k := .openObject) rfl] at hwords
  obtain ⟨ws, -, heq⟩ := Option.map_eq_some_iff.mp hwords
  cases v with
  | object members => exact ⟨members, rfl⟩
  | array items => cases items <;> cases heq
  | _ => cases heq

/-- The words of no value start with those of another one. -/
theorem eq_nil_of_words {v w : Json} {more : List Token} (h : words v ++ more = words w) :
    more = [] := by
  have hshort := Reader.run_words [] more v
  have hlong := Reader.run_words [] [] w
  rw [List.append_nil] at hlong
  rw [h, hlong] at hshort
  cases more with
  | nil => rfl
  | cons k more =>
    have hstuck : Reader.run (.done v []) (k :: more) = none := by cases k <;> rfl
    cases hshort.trans hstuck

/-- Blanks hold no brace, so a text that ends with one ends there. -/
theorem eq_of_concat_brace {a b front : Text} (h : front ++ ['\x7d'] = a ++ '\x7d' :: b)
    (hb : Spaces b) : front = a := by
  rcases List.eq_nil_or_concat b with rfl | ⟨b, c, rfl⟩
  · exact List.append_inj_left' h rfl
  · have hc := hb c (by simp)
    have hlast := congrArg List.getLast? h
    rw [List.concat_eq_append, ← List.cons_append, ← List.append_assoc, List.getLast?_concat,
      List.getLast?_concat] at hlast
    cases hlast
    cases hc

/-- If an object is cut off at a brace and the front part is still a value, then there was nothing
but blanks behind that brace. -/
theorem spaces_of_cut {front rest : Text} {v w : Json}
    (hcut : skim? ('\x7b' :: (front ++ ['\x7d'])) = some v)
    (hall : skim? ('\x7b' :: (front ++ '\x7d' :: rest)) = some w) : Spaces rest := by
  obtain ⟨members, rfl⟩ := exists_object_of_brace hcut
  have hshort := skim?_eq_some_iff.mp hcut
  have hlong := skim?_eq_some_iff.mp hall
  rw [all?_cons_sign (k := .openObject) rfl, words_object] at hshort
  rw [all?_cons_sign (k := .openObject) rfl] at hlong
  obtain ⟨_, hinside, heq⟩ := Option.map_eq_some_iff.mp hshort
  cases heq
  obtain ⟨a, b, ht, ha, hb⟩ := exists_cut_sign rfl hinside
  -- The brace at the end of the cut text is the one that closes the object, so the whole text goes
  -- on from the same words, and no value goes on behind its own.
  cases eq_of_concat_brace ht (all?_eq_nil_iff.mp hb)
  rw [all?_append ha (apart_sign (k := .closeObject) rfl rest),
    all?_cons_sign (k := .closeObject) rfl, Option.map_map, Option.map_map] at hlong
  obtain ⟨more, hmore, heq⟩ := Option.map_eq_some_iff.mp hlong
  have hwords : words (.object members) ++ more = words w := by
    rw [words_object, ← heq]
    simp
  rw [← all?_eq_nil_iff, hmore, eq_nil_of_words hwords]

end CueStream.Json
