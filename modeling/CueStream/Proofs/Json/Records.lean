-- Which values are records. Under the name of a field stands what was given for
-- it; members of other names do not matter.
import CueStream.Proofs.Json.Decoding
import Mathlib.Data.List.Nodup

namespace CueStream.Json

/-! ## Members under their names -/

/-- The members of an object whose names are texts. -/
def named (members : List (Text × Json)) : List (Option Text × Json) :=
  members.map fun m => (some m.1, m.2)

/-- The members with one of these names. -/
def known (names : List Text) (members : List (Text × Json)) : List (Text × Json) :=
  members.filter fun m => names.contains m.1

theorem namedMembers?_eq_some_iff {members : List (Option Text × Json)}
    {all : List (Text × Json)} : namedMembers? members = some all ↔ members = named all := by
  constructor
  · intro h
    induction members generalizing all with
    | nil =>
      cases h
      rfl
    | cons m members ih =>
      obtain ⟨name, v⟩ := m
      simp only [namedMembers?, List.mapM_cons, Option.bind_eq_bind, Option.bind_eq_some_iff] at h
      obtain ⟨first, hfirst, rest, hrest, hall⟩ := h
      obtain ⟨spelled, rfl, rfl⟩ := Option.map_eq_some_iff.mp hfirst
      cases hall
      rw [ih hrest]
      rfl
  · rintro rfl
    exact namedMembers?_map all

theorem mem_known {names : List Text} {members : List (Text × Json)} {name : Text}
    (h : name ∈ names) (v : Json) : (name, v) ∈ known names members ↔ (name, v) ∈ members := by
  simp [known, h]

/-- Under a name that comes at most once stands the one value that was given. -/
theorem lookup_eq_some_iff {members : List (Text × Json)} (h : (members.map (·.1)).Nodup)
    {name : Text} {v : Json} : members.lookup name = some v ↔ (name, v) ∈ members := by
  induction members with
  | nil => simp
  | cons m members ih =>
    obtain ⟨key, w⟩ := m
    obtain ⟨hkey, hrest⟩ := List.nodup_cons.mp h
    rw [List.lookup_cons, List.mem_cons]
    by_cases heq : name = key
    · subst heq
      have hout : (name, v) ∉ members := fun hv => hkey (List.mem_map.mpr ⟨_, hv, rfl⟩)
      simp [hout, eq_comm]
    · simp [beq_false_of_ne heq, ih hrest, heq]

/-- No name comes twice among the known members exactly if each known name comes at most once. -/
theorem nodup_known_iff {names : List Text} {members : List (Text × Json)} :
    ((known names members).map (·.1)).Nodup ↔
      ∀ name ∈ names, members.countP (fun m => m.1 = name) ≤ 1 := by
  have hcount (name : Text) (hname : name ∈ names) :
      ((known names members).map (·.1)).count name = members.countP fun m => m.1 = name := by
    rw [List.count, List.countP_map, known, List.countP_filter]
    refine List.countP_congr fun m _ => ?_
    by_cases hm : m.1 = name <;> simp [hm, hname]
  rw [List.nodup_iff_count_le_one]
  constructor
  · intro h name hname
    rw [← hcount name hname]
    exact h name
  · intro h name
    by_cases hname : name ∈ names
    · rw [hcount name hname]
      exact h name hname
    · have hout : name ∉ (known names members).map (·.1) := by
        intro hmem
        obtain ⟨m, hm, rfl⟩ := List.mem_map.mp hmem
        exact hname (by simpa using (List.mem_filter.mp hm).2)
      rw [List.count_eq_zero_of_not_mem hout]
      exact Nat.zero_le 1

/-! ## Records -/

/-- Each of these names comes at most once. -/
def Once (names : List Text) (members : List (Text × Json)) : Prop :=
  ∀ name ∈ names, members.countP (fun m => m.1 = name) ≤ 1

instance (names : List Text) (members : List (Text × Json)) : Decidable (Once names members) :=
  inferInstanceAs (Decidable (∀ name ∈ names, members.countP (fun m => m.1 = name) ≤ 1))

/-- A record is written as an array of at most as many elements as it has fields, or as an object
in which no field comes twice. -/
theorem record?_eq_some_iff {names : List Text} {v : Json} {r : Record} :
    v.record? names = some r ↔
      (∃ items, v = .array items ∧ items.length ≤ names.length ∧ r = ⟨true, names.zip items⟩) ∨
      ∃ members, v = .object (named members) ∧ Once names members ∧
        r = ⟨false, known names members⟩ := by
  cases v with
  | array items => simp [record?, eq_comm]
  | object members =>
    have hrecord : (Json.object members).record? names = some r ↔ ∃ all,
        namedMembers? members = some all ∧ ((known names all).map (·.1)).Nodup ∧
          r = ⟨false, known names all⟩ := by
      show (namedMembers? members).bind _ = some r ↔ _
      rw [Option.bind_eq_some_iff]
      simp only [Option.ite_none_right_eq_some, Option.some.injEq, @eq_comm _ r]
      rfl
    simp [hrecord, namedMembers?_eq_some_iff, nodup_known_iff, Once]
  | _ => simp [record?]

theorem record?_object_eq_some_iff {names : List Text} {members : List (Text × Json)} {r : Record} :
    (Json.object (named members)).record? names = some r ↔
      Once names members ∧ r = ⟨false, known names members⟩ := by
  rw [record?_eq_some_iff]
  constructor
  · rintro (⟨items, hitems, -⟩ | ⟨others, hothers, honce, hr⟩)
    · cases hitems
    · cases Option.some_inj.mp ((namedMembers?_map members).symm.trans
        (namedMembers?_eq_some_iff.mpr (Json.object.inj hothers)))
      exact ⟨honce, hr⟩
  · rintro ⟨honce, hr⟩
    exact .inr ⟨members, rfl, honce, hr⟩

/-- What stands under a name in an object. -/
theorem find?_known_eq_some_iff {names : List Text} {members : List (Text × Json)}
    (honce : Once names members) {name : Text} (hname : name ∈ names) {v : Json} :
    (Record.mk false (known names members)).find? name = some v ↔ (name, v) ∈ members := by
  rw [Record.find?, lookup_eq_some_iff (nodup_known_iff.mpr honce), mem_known hname]

theorem find?_known_eq_none_iff {names : List Text} {members : List (Text × Json)}
    (honce : Once names members) {name : Text} (hname : name ∈ names) :
    (Record.mk false (known names members)).find? name = none ↔ ∀ v, (name, v) ∉ members := by
  simp only [Option.eq_none_iff_forall_ne_some, ne_eq, find?_known_eq_some_iff honce hname]

/-! ## Records of one field -/

/-- The value is a record of one field, and this stands in the field. -/
def HasField (name : Text) (v w : Json) : Prop :=
  v = .array [w] ∨ ∃ members, v = .object (named members) ∧ Once [name] members ∧ (name, w) ∈ members

/-- The value is an object without this field. -/
def LacksField (name : Text) (v : Json) : Prop :=
  ∃ members, v = .object (named members) ∧ ∀ w, (name, w) ∉ members

theorem hasField_iff {name : Text} {v w : Json} :
    HasField name v w ↔ ∃ r, v.record? [name] = some r ∧ r.find? name = some w := by
  constructor
  · rintro (rfl | ⟨members, rfl, honce, hw⟩)
    · refine ⟨_, record?_eq_some_iff.mpr (.inl ⟨[w], rfl, Nat.le_refl 1, rfl⟩), ?_⟩
      simp [Record.find?]
    · exact ⟨_, record?_eq_some_iff.mpr (.inr ⟨members, rfl, honce, rfl⟩),
        (find?_known_eq_some_iff honce List.mem_cons_self).mpr hw⟩
  · rintro ⟨r, hr, hw⟩
    rcases record?_eq_some_iff.mp hr with ⟨items, rfl, hlength, rfl⟩ | ⟨members, rfl, honce, rfl⟩
    · rcases items with _ | ⟨first, _ | ⟨second, more⟩⟩
      · cases hw
      · have hfirst : first = w := by simpa [Record.find?] using hw
        exact .inl (hfirst ▸ rfl)
      · simp at hlength
    · exact .inr ⟨members, rfl, honce, (find?_known_eq_some_iff honce List.mem_cons_self).mp hw⟩

theorem lacksField_iff {name : Text} {v : Json} :
    LacksField name v ↔
      ∃ r, v.record? [name] = some r ∧ r.find? name = none ∧ r.positional = false := by
  constructor
  · rintro ⟨members, rfl, hnone⟩
    have honce : Once [name] members := by
      intro other hother
      rw [List.mem_singleton.mp hother, List.countP_eq_zero.mpr]
      · exact Nat.zero_le 1
      · rintro ⟨key, w⟩ hw hkey
        have hkey : key = name := by simpa using hkey
        exact hnone w (hkey ▸ hw)
    exact ⟨_, record?_eq_some_iff.mpr (.inr ⟨members, rfl, honce, rfl⟩),
      (find?_known_eq_none_iff honce List.mem_cons_self).mpr hnone, rfl⟩
  · rintro ⟨r, hr, hnone, hpositional⟩
    rcases record?_eq_some_iff.mp hr with ⟨items, -, -, rfl⟩ | ⟨members, rfl, honce, rfl⟩
    · cases hpositional
    · exact ⟨members, rfl, (find?_known_eq_none_iff honce List.mem_cons_self).mp hnone⟩

theorem required_eq_some_iff {α : Type} {name : String} {v : Json} {decode : Json → Option α}
    {x : α} :
    (∃ r, v.record? [name.toList] = some r ∧ r.required name decode = some x) ↔
      ∃ w, HasField name.toList v w ∧ decode w = some x := by
  constructor
  · rintro ⟨r, hr, hx⟩
    obtain ⟨w, hw, hx⟩ := Option.bind_eq_some_iff.mp hx
    exact ⟨w, hasField_iff.mpr ⟨r, hr, hw⟩, hx⟩
  · rintro ⟨w, hfield, hx⟩
    obtain ⟨r, hr, hw⟩ := hasField_iff.mp hfield
    exact ⟨r, hr, Option.bind_eq_some_iff.mpr ⟨w, hw, hx⟩⟩

theorem optional_eq_some_iff {α : Type} {name : String} {v : Json} {decode : Json → Option α}
    {x : Option α} :
    (∃ r, v.record? [name.toList] = some r ∧ r.optional name decode = some x) ↔
      (∃ w, HasField name.toList v w ∧ w.optional? decode = some x) ∨
        LacksField name.toList v ∧ x = none := by
  constructor
  · rintro ⟨r, hr, hx⟩
    unfold Record.optional at hx
    cases hfind : r.find? name.toList with
    | some w =>
      rw [hfind] at hx
      exact .inl ⟨w, hasField_iff.mpr ⟨r, hr, hfind⟩, hx⟩
    | none =>
      rw [hfind] at hx
      dsimp only at hx
      split at hx
      · cases hx
      · rename_i hpositional
        cases hx
        exact .inr ⟨lacksField_iff.mpr ⟨r, hr, hfind, by simpa using hpositional⟩, rfl⟩
  · rintro (⟨w, hfield, hx⟩ | ⟨hlacks, rfl⟩)
    · obtain ⟨r, hr, hw⟩ := hasField_iff.mp hfield
      refine ⟨r, hr, ?_⟩
      rw [Record.optional, hw]
      exact hx
    · obtain ⟨r, hr, hnone, hpositional⟩ := lacksField_iff.mp hlacks
      refine ⟨r, hr, ?_⟩
      rw [Record.optional, hnone, hpositional]
      rfl

end CueStream.Json
