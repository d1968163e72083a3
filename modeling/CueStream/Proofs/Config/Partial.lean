-- A file that names only some of the settings. What is given for a setting
-- counts, and one that is not given keeps its default. Order, blanks and
-- members of other names do not matter.
import CueStream.Config.File
import CueStream.Proofs.Config.Settings
import CueStream.Proofs.Json.Compact
import Mathlib.Tactic.Choose

namespace CueStream

namespace CueConfig

/-! ## Objects of settings -/

/-- No setting is given twice, and every setting that is given gets a value of its type. -/
structure Acceptable (members : List (Text × Json)) : Prop where
  once : Json.Once fieldNames members
  typed : ∀ (s : Setting) (v : Json), (s.name.toList, v) ∈ members → ∃ x, s.Gives v x

/-- Every setting that is given has the value that was given, and every other one its default. -/
def Overrides (c : CueConfig) (members : List (Text × Json)) : Prop :=
  ∀ s : Setting, (∀ v, (s.name.toList, v) ∈ members → s.Gives v (s.get c)) ∧
    ((∀ v, (s.name.toList, v) ∉ members) → s.get c = s.get {})

namespace Setting

/-- The settings of a session from each of them. -/
def gather (f : (s : Setting) → s.Value) : CueConfig :=
  ⟨f gestureCooldown, f expressionCooldown, f minSegmentChars, f minClassifyChars, f keyChars,
    f model, f temperature, f maxTokens, f blockDuringPlayback, f gestures, f expressions⟩

theorem get_gather (f : (s : Setting) → s.Value) (s : Setting) : s.get (gather f) = f s := by
  cases s <;> rfl

theorem given_known_eq_some_iff {members : List (Text × Json)}
    (honce : Json.Once fieldNames members) {s : Setting} {x : s.Value} :
    s.given ⟨false, Json.known fieldNames members⟩ = some x ↔
      (∀ v, (s.name.toList, v) ∈ members → s.Gives v x) ∧
        ((∀ v, (s.name.toList, v) ∉ members) → x = s.get {}) := by
  have hfind {v : Json} := Json.find?_known_eq_some_iff honce s.mem_fieldNames (v := v)
  unfold given Json.Record.withDefault
  split
  case h_1 w hw =>
    rw [decode?_eq_some_iff]
    constructor
    · intro hx
      -- Any other member of the name would be found as well, so there is only this one.
      refine ⟨fun v hv => ?_, fun hnone => absurd (hfind.mp hw) (hnone w)⟩
      cases hw.symm.trans (hfind.mpr hv)
      exact hx
    · exact fun h => h.1 w (hfind.mp hw)
  case h_2 hnone =>
    have hout := (Json.find?_known_eq_none_iff honce s.mem_fieldNames).mp hnone
    rw [Option.some_inj]
    constructor
    · rintro rfl
      exact ⟨fun v hv => absurd hv (hout v), fun _ => rfl⟩
    · exact fun h => (h.2 hout).symm

theorem exists_given {members : List (Text × Json)} (h : Acceptable members) (s : Setting) :
    ∃ x, s.given ⟨false, Json.known fieldNames members⟩ = some x := by
  unfold given Json.Record.withDefault
  split
  case h_1 v hv =>
    have hmem := (Json.find?_known_eq_some_iff h.once s.mem_fieldNames).mp hv
    obtain ⟨x, hx⟩ := h.typed s v hmem
    exact ⟨x, decode?_eq_some_iff.mpr hx⟩
  case h_2 => exact ⟨s.get {}, rfl⟩

end Setting

theorem ofJson?_object_eq_some_iff {members : List (Text × Json)} {c : CueConfig} :
    ofJson? (.object (Json.named members)) = some c ↔
      Json.Once fieldNames members ∧ c.Overrides members := by
  rw [ofJson?_eq_some_iff]
  constructor
  · rintro ⟨r, hr, h⟩
    obtain ⟨honce, rfl⟩ := Json.record?_object_eq_some_iff.mp hr
    exact ⟨honce, fun s => (Setting.given_known_eq_some_iff honce).mp (h s)⟩
  · rintro ⟨honce, h⟩
    exact ⟨_, Json.record?_object_eq_some_iff.mpr ⟨honce, rfl⟩,
      fun s => (Setting.given_known_eq_some_iff honce).mpr (h s)⟩

/-- An object is accepted exactly if it is acceptable. -/
theorem exists_ofJson?_iff {members : List (Text × Json)} :
    (∃ c, ofJson? (.object (Json.named members)) = some c) ↔ Acceptable members := by
  constructor
  · rintro ⟨c, hc⟩
    obtain ⟨honce, h⟩ := ofJson?_object_eq_some_iff.mp hc
    exact ⟨honce, fun s v hv => ⟨s.get c, (h s).1 v hv⟩⟩
  · intro h
    choose f hf using fun s => Setting.exists_given h s
    refine ⟨Setting.gather f, ofJson?_object_eq_some_iff.mpr ⟨h.once, fun s => ?_⟩⟩
    rw [Setting.get_gather]
    exact (Setting.given_known_eq_some_iff h.once).mp (hf s)

/-- Only the members that name a setting matter, and not their order. -/
theorem ofJson?_eq_of_perm {members others : List (Text × Json)}
    (h : (Json.known fieldNames others).Perm (Json.known fieldNames members)) :
    ofJson? (.object (Json.named others)) = ofJson? (.object (Json.named members)) := by
  have honce : Json.Once fieldNames others ↔ Json.Once fieldNames members := by
    unfold Json.Once
    rw [← Json.nodup_known_iff, ← Json.nodup_known_iff, (h.map _).nodup_iff]
  have hmem (s : Setting) (v : Json) :
      (s.name.toList, v) ∈ others ↔ (s.name.toList, v) ∈ members :=
    (Json.mem_known s.mem_fieldNames v).symm.trans
      (h.mem_iff.trans (Json.mem_known s.mem_fieldNames v))
  refine Option.ext fun c => ?_
  simp only [ofJson?_object_eq_some_iff, Overrides, honce, hmem]

end CueConfig

/-! ## Files that name some settings -/

namespace ConfigFile

variable {members : List (Text × Json)} {text : Text}

theorem parse?_of_objectText (h : Json.ObjectText (Json.named members) text) :
    parse? CueConfig.ofJson? text = CueConfig.ofJson? (.object (Json.named members)) := by
  rw [parse?, Json.skim?_eq_object_iff.mpr h, Option.bind_some]

theorem loadCue_of_objectText (h : Json.ObjectText (Json.named members) text) :
    loadCue (some text) = (CueConfig.ofJson? (.object (Json.named members))).getD {} := by
  rw [loadCue, load, Option.bind_some, parse?_of_objectText h]

/-- A file that holds an object overrides the settings that it names, each with the value that is
given for it, and leaves all others at their defaults; but one setting that is given twice, or a
value that is not of its type, makes the whole file count for nothing. Blanks, the order of the
members and members of other names do not matter. -/
theorem a_partial_file_overrides_what_it_names
    (h : Json.ObjectText (Json.named members) text) :
    (CueConfig.Acceptable members →
      ∀ c : CueConfig, c.Overrides members ↔ c = loadCue (some text)) ∧
    (¬ CueConfig.Acceptable members → loadCue (some text) = {}) ∧
    ∀ others otherText, Json.ObjectText (Json.named others) otherText →
      (Json.known CueConfig.fieldNames others).Perm (Json.known CueConfig.fieldNames members) →
      loadCue (some otherText) = loadCue (some text) := by
  rw [loadCue_of_objectText h]
  refine ⟨?_, ?_, ?_⟩
  · intro hacceptable
    obtain ⟨loaded, hloaded⟩ := CueConfig.exists_ofJson?_iff.mpr hacceptable
    intro c
    rw [hloaded, Option.getD_some]
    constructor
    · intro hc
      have hread := CueConfig.ofJson?_object_eq_some_iff.mpr ⟨hacceptable.once, hc⟩
      exact Option.some_inj.mp (hread.symm.trans hloaded)
    · rintro rfl
      exact (CueConfig.ofJson?_object_eq_some_iff.mp hloaded).2
  · intro hrefused
    have hnone : CueConfig.ofJson? (.object (Json.named members)) = none :=
      Option.eq_none_iff_forall_ne_some.mpr fun c hc =>
        hrefused (CueConfig.exists_ofJson?_iff.mp ⟨c, hc⟩)
    rw [hnone]
    rfl
  · intro others otherText hother hperm
    rw [loadCue_of_objectText hother, CueConfig.ofJson?_eq_of_perm hperm]

/-- A note that no setting is named after and a length of answers. Without the note it is the
same. -/
theorem a_file_with_a_note_sets_the_length_of_answers :
    let noted :=
      [("note".toList, Json.obj [("a".toList, .null)]), ("max_tokens".toList, .ofNat 80)]
    let bare := [("max_tokens".toList, Json.ofNat 80)]
    let text := "\x7b\"note\":\x7b\"a\":null\x7d,\"max_tokens\":80\x7d".toList
    let bareText := "\x7b\"max_tokens\":80\x7d".toList
    Json.ObjectText (Json.named noted) text ∧ Json.ObjectText (Json.named bare) bareText ∧
      CueConfig.Acceptable noted ∧ (loadCue (some text)).maxTokens = 80 ∧
      (loadCue (some text)).model = none ∧ loadCue (some bareText) = loadCue (some text) := by
  intro noted bare text bareText
  have htext : Json.ObjectText (Json.named noted) text := by
    have hlegible : (Json.object (Json.named noted)).Legible :=
      ⟨⟨trivial, trivial⟩, Json.legible_ofNat 80, trivial⟩
    exact Json.skim?_eq_object_iff.mp (Json.skim?_compact hlegible)
  have hbareText : Json.ObjectText (Json.named bare) bareText := by
    have hlegible : (Json.object (Json.named bare)).Legible := ⟨Json.legible_ofNat 80, trivial⟩
    exact Json.skim?_eq_object_iff.mp (Json.skim?_compact hlegible)
  have hlength : CueConfig.Setting.maxTokens.decode? (.ofNat 80) = some (80 : Nat) :=
    Json.nat?_ofNat (by decide) (by decide)
  have hacceptable : CueConfig.Acceptable noted := by
    refine ⟨by decide, fun s v hv => ?_⟩
    cases s <;> simp [noted, CueConfig.Setting.name] at hv
    subst hv
    exact ⟨_, CueConfig.Setting.decode?_eq_some_iff.mp hlength⟩
  obtain ⟨hsame, -, hother⟩ := a_partial_file_overrides_what_it_names htext
  have hover := (hsame hacceptable _).mpr rfl
  refine ⟨htext, hbareText, hacceptable, ?_, ?_, hother bare bareText hbareText (.refl _)⟩
  · have hgiven := (hover .maxTokens).1 (.ofNat 80) (by simp [noted, CueConfig.Setting.name])
    have hread := CueConfig.Setting.decode?_eq_some_iff.mpr hgiven
    exact Option.some_inj.mp (hread.symm.trans hlength)
  · exact (hover .model).2 fun v hv => by simp [noted, CueConfig.Setting.name] at hv

end ConfigFile

end CueStream
