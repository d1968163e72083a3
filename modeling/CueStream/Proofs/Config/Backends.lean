-- The choice of a model survives a save: the file that is written for it is
-- read as the same choice, whatever texts stand in it.
import CueStream.Config.File
import CueStream.Proofs.Json.Decoding
import CueStream.Proofs.Text.Encoding

namespace CueStream

namespace ModelConfig

/-! ## From the configuration to a value and back -/

theorem backend?_backendJson (b : Backend) : backend? (backendJson b) = some b := by
  have hrecord : (backendJson b).record? (["id", "provider_type", "enabled", "api_key",
      "api_key_env", "base_url", "model"].map String.toList) = _ :=
    Json.record?_fields (by decide) rfl
  simp only [backend?, hrecord, Json.some_bind, Json.Record.required, Json.Record.withDefault,
    Json.Record.optional, Json.find?_written]
  simp [List.lookup_cons]

theorem ofJson?_toJson (c : ModelConfig) : ofJson? c.toJson = some c := by
  have hrecord : c.toJson.record? (["active_provider", "system_model", "providers"].map
      String.toList) = _ := Json.record?_fields (by decide) rfl
  have hbackends := Json.list?_map (l := c.backends) fun b _ => backend?_backendJson b
  simp only [ofJson?, hrecord, Json.some_bind, Json.Record.withDefault, Json.Record.optional,
    Json.find?_written]
  simp [List.lookup_cons, hbackends]

theorem legible_backendJson (b : Backend) : (backendJson b).Legible := by
  refine Json.legible_fields ?_
  simp [Json.legible_str, Json.legible_bool, Json.legible_ofOption]

theorem legible_toJson (c : ModelConfig) : c.toJson.Legible := by
  have hbackends := Json.legible_array_map (l := c.backends) fun b _ => legible_backendJson b
  refine Json.legible_fields ?_
  simp [Json.legible_str, Json.legible_ofOption, hbackends]

end ModelConfig

/-! ## From the configuration to a file and back -/

namespace ConfigFile

/-- What is read from a file that a value was written to over many lines. -/
theorem parse?_file {α : Type} {ofJson? : Json → Option α} {v : Json} (hv : v.Legible) :
    (Utf8.decode? (Utf8.encode v.lines)).bind (parse? ofJson?) = ofJson? v := by
  rw [Utf8.decode?_encode, Option.bind_some, parse?, Json.skim?_lines hv, Option.bind_some]

/-- Whatever backends there are and whatever texts stand in them, a configuration that is saved is
accepted when the file is loaded, and it is the same one. So it is saved as the same text again. -/
theorem a_choice_of_model_survives_a_save (c : ModelConfig) :
    let file := Utf8.encode (saveModel c)
    (Utf8.decode? file).bind (parse? ModelConfig.ofJson?) = some c ∧
      loadModel (Utf8.decode? file) = c ∧
      saveModel (loadModel (Utf8.decode? file)) = saveModel c := by
  intro file
  have hread : (Utf8.decode? file).bind (parse? ModelConfig.ofJson?) = some c :=
    (parse?_file c.legible_toJson).trans c.ofJson?_toJson
  have hload : loadModel (Utf8.decode? file) = c := by
    rw [loadModel, load, hread, Option.getD_some]
  exact ⟨hread, hload, congrArg saveModel hload⟩

/-- Quotes, backslashes, line ends and an empty text come back as they were. -/
example :
    let c : ModelConfig :=
      { active := "say \"\\\"\n\x07".toList, systemModel := some [],
        backends := [{ id := "é漢🎉".toList, enabled := false }] }
    loadModel (Utf8.decode? (Utf8.encode (saveModel c))) = c := by
  decide +kernel

end ConfigFile

end CueStream
