-- The settings of a session one by one. Each has a name, a type, a default and
-- values that give it, and to read the settings is to read each of them.
import CueStream.Config.Cue
import CueStream.Proofs.Json.Records

namespace CueStream

namespace CueConfig

/-! ## Entries of a lexicon -/

/-- The names of the fields of an entry. -/
def entryNames : List Text := ["label".toList, "priority".toList, "keywords".toList]

/-- The value holds these three fields of an entry, in order or under their names. -/
def EntryFields (v label priority keywords : Json) : Prop :=
  v = .array [label, priority, keywords] ∨
    ∃ members, v = .object (Json.named members) ∧ Json.Once entryNames members ∧
      ("label".toList, label) ∈ members ∧ ("priority".toList, priority) ∈ members ∧
      ("keywords".toList, keywords) ∈ members

/-- The value is an entry: a label that is known, a rank of 32 bits and texts. -/
def IsEntry {L : Type} (ofName? : Text → Option L) (v : Json) (e : Lexicon.Entry L) : Prop :=
  ∃ label priority, EntryFields v label priority (.array (e.keywords.map Json.str)) ∧
    (∃ name, (label = Json.str name ∨ label = Json.obj [(name, .null)]) ∧
      ofName? name = some e.label) ∧
    Json.IsInteger priority e.priority ∧ -2147483648 ≤ e.priority ∧ e.priority ≤ 2147483647

theorem entryFields_iff {v label priority keywords : Json} :
    EntryFields v label priority keywords ↔ ∃ r, v.record? entryNames = some r ∧
      r.find? "label".toList = some label ∧ r.find? "priority".toList = some priority ∧
      r.find? "keywords".toList = some keywords := by
  constructor
  · rintro (rfl | ⟨members, rfl, honce, hlabel, hpriority, hkeywords⟩)
    · exact ⟨_, Json.record?_eq_some_iff.mpr (.inl ⟨_, rfl, by simp [entryNames], rfl⟩), rfl, rfl,
        rfl⟩
    · have hfind {name : Text} (hname : name ∈ entryNames) {x : Json} :=
        Json.find?_known_eq_some_iff honce hname (v := x)
      exact ⟨_, Json.record?_eq_some_iff.mpr (.inr ⟨members, rfl, honce, rfl⟩),
        (hfind (by simp [entryNames])).mpr hlabel, (hfind (by simp [entryNames])).mpr hpriority,
        (hfind (by simp [entryNames])).mpr hkeywords⟩
  · rintro ⟨r, hr, hlabel, hpriority, hkeywords⟩
    rcases Json.record?_eq_some_iff.mp hr with
      ⟨items, rfl, hlength, rfl⟩ | ⟨members, rfl, honce, rfl⟩
    · -- With fewer than three elements the last field is not there, and more are refused.
      rcases items with _ | ⟨first, _ | ⟨second, _ | ⟨third, _ | ⟨fourth, more⟩⟩⟩⟩
      case cons.cons.cons.nil =>
        cases hlabel
        cases hpriority
        cases hkeywords
        exact .inl rfl
      case cons.cons.cons.cons =>
        have hthree : entryNames.length = 3 := rfl
        simp only [List.length_cons, hthree] at hlength
        omega
      all_goals cases hkeywords
    · have hfind {name : Text} (hname : name ∈ entryNames) {x : Json} :=
        Json.find?_known_eq_some_iff honce hname (v := x)
      exact .inr ⟨members, rfl, honce, (hfind (by simp [entryNames])).mp hlabel,
        (hfind (by simp [entryNames])).mp hpriority, (hfind (by simp [entryNames])).mp hkeywords⟩

theorem entryOf?_eq_some_iff {L : Type} {ofName? : Text → Option L} {v : Json}
    {e : Lexicon.Entry L} : entryOf? ofName? v = some e ↔ IsEntry ofName? v e := by
  unfold entryOf?
  constructor
  · intro h
    obtain ⟨r, hr, h⟩ := Option.bind_eq_some_iff.mp h
    obtain ⟨l, hl, h⟩ := Option.bind_eq_some_iff.mp h
    obtain ⟨k, hk, h⟩ := Option.bind_eq_some_iff.mp h
    obtain ⟨texts, htexts, h⟩ := Option.bind_eq_some_iff.mp h
    cases h
    obtain ⟨label, hlabel, hl⟩ := Option.bind_eq_some_iff.mp hl
    obtain ⟨priority, hpriority, hk⟩ := Option.bind_eq_some_iff.mp hk
    obtain ⟨keywords, hkeywords, htexts⟩ := Option.bind_eq_some_iff.mp htexts
    cases Json.list?_text?_eq_some_iff.mp htexts
    exact ⟨label, priority, entryFields_iff.mpr ⟨r, hr, hlabel, hpriority, hkeywords⟩,
      Json.named?_eq_some_iff.mp hl, Json.int?_eq_some_iff.mp hk⟩
  · rintro ⟨label, priority, hfields, hl, hk⟩
    obtain ⟨r, hr, hlabel, hpriority, hkeywords⟩ := entryFields_iff.mp hfields
    have hfound {name : String} {x : Json} (hx : r.find? name.toList = some x) {α : Type}
        {decode : Json → Option α} {y : α} (hy : decode x = some y) :
        r.required name decode = some y := Option.bind_eq_some_iff.mpr ⟨x, hx, hy⟩
    refine Option.bind_eq_some_iff.mpr ⟨r, hr, ?_⟩
    refine Option.bind_eq_some_iff.mpr
      ⟨e.label, hfound hlabel (Json.named?_eq_some_iff.mpr hl), ?_⟩
    refine Option.bind_eq_some_iff.mpr
      ⟨e.priority, hfound hpriority (Json.int?_eq_some_iff.mpr hk), ?_⟩
    exact Option.bind_eq_some_iff.mpr
      ⟨e.keywords, hfound hkeywords (Json.list?_text?_eq_some_iff.mpr rfl), rfl⟩

/-- The value is a length of time: a natural number of milliseconds, of at most 64 bits. -/
def IsTime (v : Json) (t : Millis) : Prop :=
  Json.IsNatural 64 v t.toNat

theorem millis?_eq_some_iff {v : Json} {t : Millis} : millis? v = some t ↔ IsTime v t := by
  rw [millis?, Option.map_eq_some_iff]
  constructor
  · rintro ⟨n, hn, rfl⟩
    have hint := Json.nat?_eq_some_iff.mp hn
    rwa [IsTime, UInt64.toNat_ofNat_of_lt' hint.2]
  · intro hint
    exact ⟨t.toNat, Json.nat?_eq_some_iff.mpr hint, UInt64.ofNat_toNat⟩

/-- The value is a list of entries. -/
def IsLexicon {L : Type} (ofName? : Text → Option L) (v : Json) (es : List (Lexicon.Entry L)) :
    Prop :=
  ∃ items, v = .array items ∧ List.Forall₂ (IsEntry ofName?) items es

theorem entries?_eq_some_iff {L : Type} {ofName? : Text → Option L} {v : Json}
    {es : List (Lexicon.Entry L)} :
    v.list? (entryOf? ofName?) = some es ↔ IsLexicon ofName? v es := by
  simp only [Json.list?_eq_some_iff, entryOf?_eq_some_iff, IsLexicon]

/-! ## The settings one by one -/

/-- The settings that a file may name. -/
inductive Setting where
  | gestureCooldown
  | expressionCooldown
  | minSegmentChars
  | minClassifyChars
  | keyChars
  | model
  | temperature
  | maxTokens
  | blockDuringPlayback
  | gestures
  | expressions
  deriving DecidableEq, Repr

namespace Setting

def all : List Setting :=
  [gestureCooldown, expressionCooldown, minSegmentChars, minClassifyChars, keyChars, model,
    temperature, maxTokens, blockDuringPlayback, gestures, expressions]

/-- The written name of the setting. -/
def name : Setting → String
  | gestureCooldown => "gesture_cooldown_ms"
  | expressionCooldown => "expression_cooldown_ms"
  | minSegmentChars => "min_segment_chars"
  | minClassifyChars => "min_classify_chars"
  | keyChars => "dedup_prefix_chars"
  | model => "model"
  | temperature => "temperature"
  | maxTokens => "max_tokens"
  | blockDuringPlayback => "block_during_playback"
  | gestures => "gesture_lexicon"
  | expressions => "expression_lexicon"

/-- What the setting may be. -/
def Value : Setting → Type
  | gestureCooldown => Millis
  | expressionCooldown => Millis
  | minSegmentChars => Nat
  | minClassifyChars => Nat
  | keyChars => Nat
  | model => Option Text
  | temperature => Single
  | maxTokens => Nat
  | blockDuringPlayback => Bool
  | gestures => List (Lexicon.Entry Gesture)
  | expressions => List (Lexicon.Entry Expression)

/-- The setting of a session. -/
def get : (s : Setting) → CueConfig → s.Value
  | gestureCooldown => CueConfig.gestureCooldown
  | expressionCooldown => CueConfig.expressionCooldown
  | minSegmentChars => CueConfig.minSegmentChars
  | minClassifyChars => CueConfig.minClassifyChars
  | keyChars => CueConfig.keyChars
  | model => CueConfig.model
  | temperature => CueConfig.temperature
  | maxTokens => CueConfig.maxTokens
  | blockDuringPlayback => CueConfig.blockDuringPlayback
  | gestures => CueConfig.gestures
  | expressions => CueConfig.expressions

/-- How the setting is read. -/
def decode? : (s : Setting) → Json → Option s.Value
  | gestureCooldown => millis?
  | expressionCooldown => millis?
  | minSegmentChars => Json.nat? 64
  | minClassifyChars => Json.nat? 64
  | keyChars => Json.nat? 64
  | model => Json.optional? Json.text?
  | temperature => Json.single?
  | maxTokens => Json.nat? 32
  | blockDuringPlayback => Json.bool?
  | gestures => Json.list? (entryOf? Gesture.ofName?)
  | expressions => Json.list? (entryOf? Expression.ofName?)

/-- The value gives the setting: an integer that fits, a text or `null`, a number, a truth value or
a list of entries. -/
def Gives : (s : Setting) → Json → s.Value → Prop
  | gestureCooldown => IsTime
  | expressionCooldown => IsTime
  | minSegmentChars => Json.IsNatural 64
  | minClassifyChars => Json.IsNatural 64
  | keyChars => Json.IsNatural 64
  | model => fun v t => v = Json.ofOption t
  | temperature => fun v x => ∃ n, v = .number n ∧ n.single? = some x
  | maxTokens => Json.IsNatural 32
  | blockDuringPlayback => fun v b => v = .bool b
  | gestures => IsLexicon Gesture.ofName?
  | expressions => IsLexicon Expression.ofName?

theorem fieldNames_eq : fieldNames = all.map fun s => s.name.toList := rfl

theorem mem_all (s : Setting) : s ∈ all := by
  cases s <;> decide

theorem mem_fieldNames (s : Setting) : s.name.toList ∈ fieldNames := by
  rw [fieldNames_eq]
  exact List.mem_map.mpr ⟨s, mem_all s, rfl⟩

/-- What is read for a setting is what the value gives. -/
theorem decode?_eq_some_iff {s : Setting} {v : Json} {x : s.Value} :
    s.decode? v = some x ↔ s.Gives v x := by
  cases s with
  | gestureCooldown => exact millis?_eq_some_iff
  | expressionCooldown => exact millis?_eq_some_iff
  | minSegmentChars => exact Json.nat?_eq_some_iff
  | minClassifyChars => exact Json.nat?_eq_some_iff
  | keyChars => exact Json.nat?_eq_some_iff
  | model => exact Json.optional?_text?_eq_some_iff
  | temperature => exact Json.single?_eq_some_iff
  | maxTokens => exact Json.nat?_eq_some_iff
  | blockDuringPlayback => exact Json.bool?_eq_some_iff
  | gestures => exact entries?_eq_some_iff
  | expressions => exact entries?_eq_some_iff

/-- What a record holds for the setting. -/
def given (s : Setting) (r : Json.Record) : Option s.Value :=
  r.withDefault s.name (s.get {}) s.decode?

end Setting

/-! ## From a value to the settings -/

theorem ofJson?_eq_some_iff {v : Json} {c : CueConfig} :
    ofJson? v = some c ↔
      ∃ r, v.record? fieldNames = some r ∧ ∀ s : Setting, s.given r = some (s.get c) := by
  unfold ofJson?
  constructor
  · intro h
    obtain ⟨r, hr, h⟩ := Option.bind_eq_some_iff.mp h
    obtain ⟨gestureCooldown, h1, h⟩ := Option.bind_eq_some_iff.mp h
    obtain ⟨expressionCooldown, h2, h⟩ := Option.bind_eq_some_iff.mp h
    obtain ⟨minSegmentChars, h3, h⟩ := Option.bind_eq_some_iff.mp h
    obtain ⟨minClassifyChars, h4, h⟩ := Option.bind_eq_some_iff.mp h
    obtain ⟨keyChars, h5, h⟩ := Option.bind_eq_some_iff.mp h
    obtain ⟨model, h6, h⟩ := Option.bind_eq_some_iff.mp h
    obtain ⟨temperature, h7, h⟩ := Option.bind_eq_some_iff.mp h
    obtain ⟨maxTokens, h8, h⟩ := Option.bind_eq_some_iff.mp h
    obtain ⟨blockDuringPlayback, h9, h⟩ := Option.bind_eq_some_iff.mp h
    obtain ⟨gestures, h10, h⟩ := Option.bind_eq_some_iff.mp h
    obtain ⟨expressions, h11, h⟩ := Option.bind_eq_some_iff.mp h
    cases h
    refine ⟨r, hr, fun s => ?_⟩
    cases s with
    | gestureCooldown => exact h1
    | expressionCooldown => exact h2
    | minSegmentChars => exact h3
    | minClassifyChars => exact h4
    | keyChars => exact h5
    | model => exact h6
    | temperature => exact h7
    | maxTokens => exact h8
    | blockDuringPlayback => exact h9
    | gestures => exact h10
    | expressions => exact h11
  · rintro ⟨r, hr, h⟩
    refine Option.bind_eq_some_iff.mpr ⟨r, hr, ?_⟩
    refine Option.bind_eq_some_iff.mpr ⟨c.gestureCooldown, h .gestureCooldown, ?_⟩
    refine Option.bind_eq_some_iff.mpr ⟨c.expressionCooldown, h .expressionCooldown, ?_⟩
    refine Option.bind_eq_some_iff.mpr ⟨c.minSegmentChars, h .minSegmentChars, ?_⟩
    refine Option.bind_eq_some_iff.mpr ⟨c.minClassifyChars, h .minClassifyChars, ?_⟩
    refine Option.bind_eq_some_iff.mpr ⟨c.keyChars, h .keyChars, ?_⟩
    refine Option.bind_eq_some_iff.mpr ⟨c.model, h .model, ?_⟩
    refine Option.bind_eq_some_iff.mpr ⟨c.temperature, h .temperature, ?_⟩
    refine Option.bind_eq_some_iff.mpr ⟨c.maxTokens, h .maxTokens, ?_⟩
    refine Option.bind_eq_some_iff.mpr ⟨c.blockDuringPlayback, h .blockDuringPlayback, ?_⟩
    refine Option.bind_eq_some_iff.mpr ⟨c.gestures, h .gestures, ?_⟩
    exact Option.bind_eq_some_iff.mpr ⟨c.expressions, h .expressions, rfl⟩

end CueConfig

end CueStream
