-- Which model answers: the backends that are configured, the one that is
-- active, and the key that it is called with.
import CueStream.Json.Decode
import CueStream.Json.Printer

namespace CueStream

/-! ## Keys -/

/-- The variables of the environment, with their values. -/
abbrev Environment := List (Text × Text)

/-- The value of a variable. A name that cannot be one is not set. -/
def Environment.get? (env : Environment) (name : Text) : Option Text :=
  if name.isEmpty || name.contains '=' || name.contains '\x00' then none
  else env.lookup name

/-- A key that is given as it is, or else by the name of a variable. An empty key is none. -/
def resolveKey (env : Environment) (key keyVariable : Option Text) : Option Text :=
  (key.filter (!·.isEmpty)).or
    ((keyVariable.bind env.get?).filter (!·.isEmpty))

/-! ## Backends -/

/-- The address of the backend that is used unless another one is given. -/
def standardBaseUrl : Text := "https://api.openai.com/v1".toList

/-- The model that is used unless another one is given. -/
def standardModel : Text := "gpt-4o-mini".toList

/-- The name of the standard backend, and of the protocol that it speaks. -/
def standardBackend : Text := "openai".toList

/-- One backend. -/
structure Backend where
  id : Text
  /-- The protocol that it speaks. -/
  kind : Text := standardBackend
  enabled : Bool := true
  key : Option Text := none
  /-- The variable that holds the key. -/
  keyVariable : Option Text := none
  baseUrl : Option Text := none
  model : Option Text := none
  deriving DecidableEq, Repr

/-- The key of a backend. -/
def Backend.resolveKey (env : Environment) (b : Backend) : Option Text :=
  CueStream.resolveKey env b.key b.keyVariable

/-- The backends, and the choice among them. -/
structure ModelConfig where
  /-- The backend that should be used. -/
  active : Text := standardBackend
  /-- The model for classification. -/
  systemModel : Option Text := none
  backends : List Backend :=
    [{ id := standardBackend
       keyVariable := some "OPENAI_API_KEY".toList
       baseUrl := some standardBaseUrl
       model := some standardModel }]
  deriving DecidableEq, Repr

namespace ModelConfig

/-- The backend that is used: the one that should be, or else the first one that is enabled, or
else the first one. -/
def active? (c : ModelConfig) : Option Backend :=
  (c.backends.find? fun b => b.id = c.active).or
    ((c.backends.find? fun b => b.enabled).or c.backends.head?)

/-! ## Reading -/

/-- A backend that a value holds. -/
def backend? (v : Json) : Option Backend := do
  let r ← v.record? (["id", "provider_type", "enabled", "api_key", "api_key_env", "base_url",
    "model"].map String.toList)
  let id ← r.required "id" Json.text?
  let kind ← r.withDefault "provider_type" standardBackend Json.text?
  let enabled ← r.withDefault "enabled" true Json.bool?
  let key ← r.optional "api_key" Json.text?
  let keyVariable ← r.optional "api_key_env" Json.text?
  let baseUrl ← r.optional "base_url" Json.text?
  let model ← r.optional "model" Json.text?
  return { id, kind, enabled, key, keyVariable, baseUrl, model }

/-- The configuration that a value holds. -/
def ofJson? (v : Json) : Option ModelConfig := do
  let r ← v.record? (["active_provider", "system_model", "providers"].map String.toList)
  let d : ModelConfig := {}
  let active ← r.withDefault "active_provider" d.active Json.text?
  let systemModel ← r.optional "system_model" Json.text?
  let backends ← r.withDefault "providers" d.backends (Json.list? backend?)
  return { active, systemModel, backends }

/-! ## Writing -/

/-- The value that holds a backend. -/
def backendJson (b : Backend) : Json :=
  Json.fields [
    ("id", Json.str b.id),
    ("provider_type", Json.str b.kind),
    ("enabled", .bool b.enabled),
    ("api_key", Json.ofOption b.key),
    ("api_key_env", Json.ofOption b.keyVariable),
    ("base_url", Json.ofOption b.baseUrl),
    ("model", Json.ofOption b.model)]

/-- The value that holds the configuration. -/
def toJson (c : ModelConfig) : Json :=
  Json.fields [
    ("active_provider", Json.str c.active),
    ("system_model", Json.ofOption c.systemModel),
    ("providers", .array (c.backends.map backendJson))]

end ModelConfig

end CueStream
