-- Values of the library that are written as JSON are read back from it: the
-- fields of a record under their names, lists item by item, and integers as
-- long as they fit. Whatever was read fits.
import CueStream.Json.Decode
import CueStream.Proofs.Json.Rereading
import Mathlib.Data.List.Forall2

namespace CueStream.Json

/-! ## Integers -/

theorem int?_ofInt {least greatest k : Int} (hleast : least ≤ k) (hgreatest : k ≤ greatest)
    (hlow : -(2 ^ 63) ≤ k) (hhigh : k < 2 ^ 64) : (ofInt k).int? least greatest = some k := by
  simp only [int?, ofInt, Numeral.int?_ofInt hlow hhigh, Option.filter_some, hleast, hgreatest,
    decide_true, Bool.and_self, if_true]

theorem nat?_ofNat {bits n : Nat} (hbits : bits ≤ 64) (h : n < 2 ^ bits) :
    (ofNat n).nat? bits = some n := by
  have hsize : n < UInt64.size := Nat.lt_of_lt_of_le h (Nat.pow_le_pow_right (by decide) hbits)
  have hgreatest : (n : Int) ≤ Nat.pow 2 bits - 1 := by
    have : n < Nat.pow 2 bits := h
    omega
  simp only [nat?, int?, ofNat, Numeral.int?_ofNat hsize, Option.filter_some, hgreatest,
    Int.natCast_nonneg, decide_true, Bool.and_self, if_true, Option.map_some, Int.toNat_natCast]

/-! ## Texts and lists -/

@[simp]
theorem text?_str (t : Text) : (str t).text? = some t := rfl

@[simp]
theorem bool?_bool (b : Bool) : (Json.bool b).bool? = some b := rfl

@[simp]
theorem optional?_ofOption (t : Option Text) : (ofOption t).optional? text? = some t := by
  cases t <;> rfl

/-- A list is read back if its elements are. -/
theorem list?_map {α : Type} {encode : α → Json} {decode : Json → Option α} {l : List α}
    (h : ∀ x ∈ l, decode (encode x) = some x) :
    (Json.array (l.map encode)).list? decode = some l := by
  show (l.map encode).mapM decode = some l
  induction l with
  | nil => rfl
  | cons x l ih =>
    obtain ⟨hx, hl⟩ := List.forall_mem_cons.mp h
    rw [List.map_cons, List.mapM_cons, hx, ih hl]
    rfl

theorem list?_map_text (texts : List Text) :
    (Json.array (texts.map str)).list? text? = some texts :=
  list?_map fun t _ => text?_str t

/-! ## Records -/

/-- A field that was decoded. The decoder is not brought to the form `Option.bind`: its congruence
lemma looks at all that follows twice, for every field. -/
theorem some_bind {α β : Type} (a : α) (f : α → Option β) : (some a >>= f) = f a := rfl

/-- The record that holds the members of an object that was written. -/
def written (ms : List (String × Json)) : Record :=
  ⟨false, ms.map fun m => (m.1.toList, m.2)⟩

theorem namedMembers?_map (members : List (Text × Json)) :
    namedMembers? (members.map fun m => (some m.1, m.2)) = some members := by
  unfold namedMembers?
  induction members with
  | nil => rfl
  | cons m members ih =>
    rw [List.map_cons, List.mapM_cons, ih]
    rfl

/-- An object holds the record with exactly the fields under which it was written. -/
theorem record?_fields {names : List String} {ms : List (String × Json)} (hnames : names.Nodup)
    (hms : ms.map Prod.fst = names) :
    (fields ms).record? (names.map String.toList) = some (written ms) := by
  subst hms
  have htexts : ((ms.map Prod.fst).map String.toList).Nodup :=
    List.Pairwise.map String.toList (fun _ _ hne heq => hne (String.toList_inj.mp heq)) hnames
  have hknown : (ms.map fun m => (m.1.toList, m.2)).filter
      (fun m => ((ms.map Prod.fst).map String.toList).contains m.1) =
        ms.map fun m => (m.1.toList, m.2) := by
    rw [List.filter_eq_self]
    intro m hm
    obtain ⟨field, hfield, rfl⟩ := List.mem_map.mp hm
    exact List.contains_iff_mem.mpr (List.mem_map_of_mem (List.mem_map_of_mem hfield))
  have hkeys : ((ms.map fun m => (m.1.toList, m.2)).map (·.1)).Nodup := by
    rwa [List.map_map] at htexts ⊢
  show (namedMembers? _).bind _ = _
  rw [namedMembers?_map, Option.bind_some, hknown, if_pos hkeys]
  rfl

/-- A field is found under its name. -/
theorem find?_written (ms : List (String × Json)) (name : String) :
    (written ms).find? name.toList = ms.lookup name := by
  show (ms.map fun m => (m.1.toList, m.2)).lookup name.toList = ms.lookup name
  induction ms with
  | nil => rfl
  | cons m ms ih =>
    obtain ⟨key, v⟩ := m
    have hname : (name.toList == key.toList) = (name == key) := by
      rw [Bool.eq_iff_iff, beq_iff_eq, beq_iff_eq, String.toList_inj]
    simp only [List.map_cons, List.lookup_cons, ih, hname]

/-! ## What was decoded -/

/-- The value is this integer, written without point and power of ten. -/
def IsInteger (v : Json) (k : Int) : Prop :=
  ∃ n, v = .number n ∧ n.int? = some k

theorem int?_eq_some_iff {least greatest k : Int} {v : Json} :
    v.int? least greatest = some k ↔ IsInteger v k ∧ least ≤ k ∧ k ≤ greatest := by
  cases v <;> simp [int?, IsInteger, Option.filter_eq_some_iff]

/-- The value is this natural number, of at most this many bits. -/
def IsNatural (bits : Nat) (v : Json) (n : Nat) : Prop :=
  IsInteger v n ∧ n < 2 ^ bits

theorem nat?_eq_some_iff {bits n : Nat} {v : Json} :
    v.nat? bits = some n ↔ IsNatural bits v n := by
  have hpow : Nat.pow 2 bits = 2 ^ bits := rfl
  rw [nat?, Option.map_eq_some_iff]
  constructor
  · rintro ⟨k, hk, rfl⟩
    obtain ⟨hint, hlow, hhigh⟩ := int?_eq_some_iff.mp hk
    have hcast : (k.toNat : Int) = k := Int.toNat_of_nonneg hlow
    have hpos := Nat.two_pow_pos bits
    exact ⟨hcast ▸ hint, by omega⟩
  · rintro ⟨hint, hhigh⟩
    exact ⟨n, int?_eq_some_iff.mpr ⟨hint, Int.natCast_nonneg n, by omega⟩, Int.toNat_natCast n⟩

theorem lt_of_nat? {bits n : Nat} {v : Json} (h : v.nat? bits = some n) : n < 2 ^ bits :=
  (nat?_eq_some_iff.mp h).2

theorem single?_eq_some_iff {v : Json} {x : Single} :
    v.single? = some x ↔ ∃ n, v = .number n ∧ n.single? = some x := by
  cases v <;> simp [single?]

theorem bool?_eq_some_iff {v : Json} {b : Bool} : v.bool? = some b ↔ v = .bool b := by
  cases v <;> simp [bool?]

theorem optional?_text?_eq_some_iff {v : Json} {t : Option Text} :
    v.optional? text? = some t ↔ v = ofOption t := by
  cases t <;> cases v <;> simp [optional?, text?, ofOption, str]

theorem list?_eq_some_iff {α : Type} {decode : Json → Option α} {v : Json} {xs : List α} :
    v.list? decode = some xs ↔
      ∃ items, v = .array items ∧ List.Forall₂ (fun item x => decode item = some x) items xs := by
  have hitems (items : List Json) (xs : List α) : items.mapM decode = some xs ↔
      List.Forall₂ (fun item x => decode item = some x) items xs := by
    induction items generalizing xs with
    | nil => cases xs <;> simp
    | cons item items ih =>
      cases xs <;> simp [List.mapM_cons, Option.bind_eq_some_iff, ih]
  cases v <;> simp [list?, hitems]

/-- Every element of a list was decoded. -/
theorem decoded_of_list? {α : Type} {decode : Json → Option α} {v : Json} {xs : List α}
    (h : v.list? decode = some xs) : ∀ x ∈ xs, ∃ item, decode item = some x := by
  obtain ⟨items, -, hitems⟩ := list?_eq_some_iff.mp h
  clear h
  intro x hx
  induction hitems with
  | nil => cases hx
  | cons hfirst _ ih =>
    rcases List.mem_cons.mp hx with rfl | hrest
    · exact ⟨_, hfirst⟩
    · exact ih hrest

theorem list?_text?_eq_some_iff {v : Json} {texts : List Text} :
    v.list? text? = some texts ↔ v = .array (texts.map str) := by
  have htext (item : Json) (t : Text) : item.text? = some t ↔ item = str t := by
    cases item <;> simp [text?, str]
  have hsame (items : List Json) :
      List.Forall₂ (fun item t => item = str t) items texts ↔ items = texts.map str := by
    rw [← List.forall₂_map_right_iff (f := str) (R := Eq), List.forall₂_eq_eq_eq]
  simp only [list?_eq_some_iff, htext, hsame, exists_eq_right]

/-- A name is written as a string, or as an object with that name and nothing to it. -/
theorem named?_eq_some_iff {α : Type} {ofName? : Text → Option α} {v : Json} {x : α} :
    v.named? ofName? = some x ↔
      ∃ name, (v = str name ∨ v = obj [(name, .null)]) ∧ ofName? name = some x := by
  constructor
  · intro h
    unfold named? at h
    split at h
    · exact ⟨_, .inl rfl, h⟩
    · exact ⟨_, .inr rfl, h⟩
    · cases h
  · rintro ⟨name, rfl | rfl, h⟩
    · exact h
    · exact h

/-- What holds of the default of a field and of all that is decoded holds of the field. -/
theorem Record.withDefault_spec {α : Type} {P : α → Prop} {r : Record} {name : String}
    {default x : α} {decode : Json → Option α} (h : r.withDefault name default decode = some x)
    (hdefault : P default) (hdecode : ∀ v x, decode v = some x → P x) : P x := by
  unfold withDefault at h
  split at h
  · exact hdecode _ _ h
  · cases h
    exact hdefault

/-! ## Numbers that can be read back -/

theorem legible_str (t : Text) : (str t).Legible := trivial

theorem legible_bool (b : Bool) : (Json.bool b).Legible := trivial

theorem legible_ofOption (t : Option Text) : (ofOption t).Legible := by
  cases t <;> trivial

theorem legible_ofNat (n : Nat) : (ofNat n).Legible := Numeral.proper_ofNat n

theorem legible_ofInt (k : Int) : (ofInt k).Legible := Numeral.proper_ofInt k

theorem legible_array_map {α : Type} {encode : α → Json} {l : List α}
    (h : ∀ x ∈ l, (encode x).Legible) : (Json.array (l.map encode)).Legible := by
  show ItemsLegible (l.map encode)
  rw [itemsLegible_iff]
  simpa using h

theorem legible_fields {ms : List (String × Json)} (h : ∀ m ∈ ms, m.2.Legible) :
    (fields ms).Legible := by
  show MembersLegible ((ms.map fun m => (m.1.toList, m.2)).map fun m => (some m.1, m.2))
  rw [membersLegible_iff, List.map_map]
  intro m hm
  obtain ⟨field, hfield, rfl⟩ := List.mem_map.mp hm
  exact h field hfield

end CueStream.Json
