-- The settings of a session survive a save: whatever a file says, the settings
-- that are read from it are saved as a file that is read as the same settings.
-- Only a temperature that is too large for single precision is lost, and with
-- it everything else.
import CueStream.Proofs.Config.Backends
import CueStream.Proofs.Config.Settings
import CueStream.Proofs.Number.Return

namespace CueStream

/-! ## Numbers -/

namespace Json

theorem single?_ofSingle {negative : Bool} {steps : Nat}
    (h : (Single.finite negative steps).Proper) :
    (ofSingle (.finite negative steps)).single? = some (.finite negative steps) :=
  single?_numeral negative (h negative steps rfl)

theorem legible_ofSingle {x : Single} (h : x.Proper) : (ofSingle x).Legible := by
  cases x with
  | finite negative steps => exact proper_numeral negative (h negative steps rfl)
  | infinite negative => trivial

theorem proper_of_single? {v : Json} {x : Single} (h : v.single? = some x) : x.Proper := by
  unfold single? at h
  split at h
  · exact Single.proper_of_single? h
  · cases h

end Json

/-! ## Lexicons -/

namespace CueConfig

/-- The rank of an entry fits in 32 bits. -/
def Ranked {L : Type} (e : Lexicon.Entry L) : Prop :=
  -2147483648 ≤ e.priority ∧ e.priority ≤ 2147483647

variable {L : Type} {label : L → Text} {label? : Text → Option L}

theorem entryOf?_entryJson (hlabel : ∀ l, label? (label l) = some l) {e : Lexicon.Entry L}
    (h : Ranked e) : entryOf? label? (entryJson label e) = some e := by
  have hrecord : (entryJson label e).record? (["label", "priority", "keywords"].map
      String.toList) = _ := Json.record?_fields (by decide) rfl
  have hpriority : (Json.ofInt e.priority).int? (-2147483648) 2147483647 = some e.priority :=
    Json.int?_ofInt h.1 h.2 (by have := h.1; omega) (by have := h.2; omega)
  have hnamed : (Json.str (label e.label)).named? label? = some e.label := hlabel e.label
  have hkeywords := Json.list?_map_text e.keywords
  simp only [List.map_cons, List.map_nil] at hrecord
  simp only [entryOf?, hrecord, Json.some_bind, Json.Record.required, Json.find?_written]
  simp [List.lookup_cons, hpriority, hnamed, hkeywords]

theorem ranked_of_entryOf? {v : Json} {e : Lexicon.Entry L} (h : entryOf? label? v = some e) :
    Ranked e := by
  obtain ⟨label, priority, -, -, -, hbounds⟩ := entryOf?_eq_some_iff.mp h
  exact hbounds

theorem legible_entryJson (label : L → Text) (e : Lexicon.Entry L) : (entryJson label e).Legible := by
  refine Json.legible_fields ?_
  have hkeywords := Json.legible_array_map (l := e.keywords) fun t _ => Json.legible_str t
  simp [Json.legible_str, Json.legible_ofInt, hkeywords]

/-! ## Settings -/

/-- Every number of the settings fits in its field. -/
structure Proper (c : CueConfig) : Prop where
  segment : c.minSegmentChars < 2 ^ 64
  classify : c.minClassifyChars < 2 ^ 64
  key : c.keyChars < 2 ^ 64
  temperature : c.temperature.Proper
  tokens : c.maxTokens < 2 ^ 32
  gestures : ∀ e ∈ c.gestures, Ranked e
  expressions : ∀ e ∈ c.expressions, Ranked e

theorem proper_default : Proper {} where
  segment := by decide
  classify := by decide
  key := by decide
  temperature := by
    dsimp only
    exact Single.proper_ofQuotient false 1 (Nat.succ_pos 9)
  tokens := by decide
  gestures := by
    unfold Ranked
    decide
  expressions := by
    unfold Ranked
    decide

theorem ranked_of_list? {v : Json} {entries : List (Lexicon.Entry L)}
    (h : v.list? (entryOf? label?) = some entries) : ∀ e ∈ entries, Ranked e := by
  intro e he
  obtain ⟨item, hitem⟩ := Json.decoded_of_list? h e he
  exact ranked_of_entryOf? hitem

/-- The settings that are read from a value fit. -/
theorem proper_of_ofJson? {v : Json} {c : CueConfig} (h : ofJson? v = some c) : c.Proper := by
  obtain ⟨r, -, hgiven⟩ := ofJson?_eq_some_iff.mp h
  have hdefault := proper_default
  exact {
    segment := Json.Record.withDefault_spec (P := (· < 2 ^ 64)) (hgiven .minSegmentChars)
      hdefault.segment fun _ _ => Json.lt_of_nat?
    classify := Json.Record.withDefault_spec (P := (· < 2 ^ 64)) (hgiven .minClassifyChars)
      hdefault.classify fun _ _ => Json.lt_of_nat?
    key := Json.Record.withDefault_spec (P := (· < 2 ^ 64)) (hgiven .keyChars) hdefault.key
      fun _ _ => Json.lt_of_nat?
    temperature := Json.Record.withDefault_spec (P := Single.Proper) (hgiven .temperature)
      hdefault.temperature fun _ _ => Json.proper_of_single?
    tokens := Json.Record.withDefault_spec (P := (· < 2 ^ 32)) (hgiven .maxTokens) hdefault.tokens
      fun _ _ => Json.lt_of_nat?
    gestures := Json.Record.withDefault_spec (P := fun entries => ∀ e ∈ entries, Ranked e)
      (hgiven .gestures) hdefault.gestures fun _ _ => ranked_of_list?
    expressions := Json.Record.withDefault_spec (P := fun entries => ∀ e ∈ entries, Ranked e)
      (hgiven .expressions) hdefault.expressions fun _ _ => ranked_of_list? }

theorem millis?_ofNat (t : Millis) : millis? (Json.ofNat t.toNat) = some t := by
  have hsize : t.toNat < 2 ^ 64 := t.toNat_lt
  rw [millis?, Json.nat?_ofNat (Nat.le_refl 64) hsize, Option.map_some, UInt64.ofNat_toNat]

/-- Settings that fit are read back with the temperature that is read back. -/
theorem ofJson?_toJson {c : CueConfig} (h : c.Proper) :
    ofJson? c.toJson =
      (Json.ofSingle c.temperature).single?.map fun t => { c with temperature := t } := by
  have hrecord : c.toJson.record? fieldNames = _ := Json.record?_fields (by decide) rfl
  have hsegment := Json.nat?_ofNat (Nat.le_refl 64) h.segment
  have hclassify := Json.nat?_ofNat (Nat.le_refl 64) h.classify
  have hkey := Json.nat?_ofNat (Nat.le_refl 64) h.key
  have htokens := Json.nat?_ofNat (show 32 ≤ 64 by decide) h.tokens
  have hgestures := Json.list?_map (l := c.gestures) fun e he =>
    entryOf?_entryJson Gesture.ofName?_label (h.gestures e he)
  have hexpressions := Json.list?_map (l := c.expressions) fun e he =>
    entryOf?_entryJson Expression.ofName?_label (h.expressions e he)
  simp only [ofJson?, hrecord, Json.some_bind, Json.Record.withDefault, Json.find?_written,
    List.lookup_cons, String.reduceBEq, millis?_ofNat, hsegment, hclassify, hkey, htokens, hgestures,
    hexpressions, Json.optional?_ofOption, Json.bool?_bool]
  cases (Json.ofSingle c.temperature).single? <;> rfl

theorem legible_toJson {c : CueConfig} (h : c.Proper) : c.toJson.Legible := by
  have hgestures := Json.legible_array_map (l := c.gestures) fun e _ =>
    legible_entryJson Gesture.label e
  have hexpressions := Json.legible_array_map (l := c.expressions) fun e _ =>
    legible_entryJson Expression.label e
  refine Json.legible_fields ?_
  simp [Json.legible_ofNat, Json.legible_bool, Json.legible_ofOption,
    Json.legible_ofSingle h.temperature, hgestures, hexpressions]

end CueConfig

/-! ## From a file to the settings and back -/

namespace ConfigFile

theorem proper_loadCue (content : Option Text) : (loadCue content).Proper := by
  unfold loadCue load
  cases hread : content.bind (parse? CueConfig.ofJson?) with
  | none => exact CueConfig.proper_default
  | some c =>
    obtain ⟨text, -, hparse⟩ := Option.bind_eq_some_iff.mp hread
    obtain ⟨v, -, hv⟩ := Option.bind_eq_some_iff.mp hparse
    exact CueConfig.proper_of_ofJson? hv

/-- Whatever a file says, the settings that are loaded from it and saved are accepted when they are
loaded again, and they are the same ones, as long as the temperature is not too large for single
precision. If it is, the file that was saved is refused, and the defaults take its place. -/
theorem loaded_settings_survive_a_save_unless_infinite (content : Option Text) :
    let c := loadCue content
    let again := Utf8.decode? (Utf8.encode (saveCue c))
    match c.temperature with
    | .finite _ _ => again.bind (parse? CueConfig.ofJson?) = some c ∧ loadCue again = c
    | .infinite _ => again.bind (parse? CueConfig.ofJson?) = none ∧ loadCue again = {} := by
  intro c again
  have hproper : c.Proper := proper_loadCue content
  have hread : again.bind (parse? CueConfig.ofJson?) = _ :=
    (parse?_file (CueConfig.legible_toJson hproper)).trans (CueConfig.ofJson?_toJson hproper)
  have hload : loadCue again = (again.bind (parse? CueConfig.ofJson?)).getD {} := rfl
  cases htemperature : c.temperature with
  | finite negative steps =>
    have hback := Json.single?_ofSingle (htemperature ▸ hproper.temperature)
    rw [htemperature, hback, Option.map_some, ← htemperature] at hread
    rw [hload, hread]
    exact ⟨rfl, rfl⟩
  | infinite negative =>
    rw [htemperature] at hread
    rw [hload, hread]
    exact ⟨rfl, rfl⟩

/-- With a temperature of `1e39` the other settings are lost as well. -/
example :
    let c := loadCue (some ("\x7b\"gesture_cooldown_ms\": 1500, \"temperature\": 1e39, " ++
      "\"gesture_lexicon\": [], \"expression_lexicon\": []\x7d").toList)
    c.gestureCooldown = 1500 ∧
      (loadCue (Utf8.decode? (Utf8.encode (saveCue c)))).gestureCooldown = 4000 := by
  decide +kernel

end ConfigFile

end CueStream
