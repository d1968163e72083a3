-- Asking a model over the network: one message comes back whole, or in small
-- pieces as a stream of events. Every failure is told in one line.
import CueStream.Classifier.Call
import CueStream.Config.Model
import CueStream.Http.EventStream
import CueStream.Http.Retry
import CueStream.Url.Reader

namespace CueStream

open Http

/-! ## Requests -/

/-- A request to a model. -/
structure ChatRequest where
  model : Text
  messages : List Message
  stream : Bool
  temperature : Option Single
  maxTokens : Option Nat
  deriving DecidableEq, Repr

namespace ChatRequest

/-- The body of the request. What is left open is left out. -/
def body (r : ChatRequest) : Text :=
  Json.compact <| Json.fields <|
    [("model", Json.str r.model),
      ("messages", .array (r.messages.map fun m =>
        Json.fields [("role", Json.str m.role), ("content", Json.str m.content)])),
      ("stream", .bool r.stream)] ++
    (r.temperature.map fun x => ("temperature", Json.ofSingle x)).toList ++
    (r.maxTokens.map fun n => ("max_tokens", Json.ofNat n)).toList

end ChatRequest

/-- A request as it goes over the network. -/
structure Posted where
  url : Url
  authorization : Text
  contentType : Text
  body : Text
  deriving DecidableEq, Repr

/-- Why a request cannot be sent. -/
inductive Unsendable where
  /-- Its address or its key cannot be read. -/
  | malformed
  /-- Its address is none that can be asked. -/
  | unreachable (url : Url)
  deriving DecidableEq, Repr

/-- What is said of a request that cannot be sent. -/
def Unsendable.message : Unsendable → Text
  | .malformed => "builder error".toList
  | .unreachable url => "builder error for url (".toList ++ url.text ++ [')']

/-- How the attempts to send requests end: for each attempt its number and the request. -/
abbrev Network := Nat → Posted → Outcome

namespace Network

/-- What is said of a request that did not reach its server. -/
def unreachableError (url : Url) : Text :=
  "error sending request for url (".toList ++ url.text ++ ")".toList

/-- No server can be reached. -/
def closed : Network :=
  fun _ p => .failure (unreachableError p.url)

end Network

/-! ## Answers -/

/-- The message in an answer that came whole. What is not there counts as empty. -/
def messageContent (v : Json) : Text :=
  (((((v.member? "choices".toList).bind (Json.item? 0)).bind (Json.member? "message".toList)).bind
    (Json.member? "content".toList)).bind Json.text?).getD []

/-- A piece of a message, from the data of an event. Events that are no pieces give none. -/
def deltaContent? (data : Text) : Option Text := do
  let v ← Json.skim? data
  let r ← v.record? ["choices".toList]
  let choices ← r.required "choices" (Json.list? fun choice => do
    let r ← choice.record? ["delta".toList]
    r.required "delta" fun delta => do
      let r ← delta.record? ["content".toList]
      r.optional "content" Json.text?)
  (choices.head?.bind id)

/-- The piece of a message that an event brings. The event that announces the end brings none. -/
def delta? (data : Text) : Option Text :=
  if data = "[DONE]".toList then none else deltaContent? data

/-- The pieces of a message and the errors in a body that is a stream of events. -/
def deltas (body : List (List UInt8)) (broken : Bool) : List (Except Text Text) :=
  (({} : EventStream).items broken body).filterMap fun item =>
    match item with
    | .ok data => (delta? data).map .ok
    | .error e => some (.error ("Stream error: ".toList ++ e))

/-! ## Clients -/

/-- Whoever calls a model. -/
structure ChatClient where
  key : Text
  baseUrl : Text
  model : Text
  retry : RetryPolicy := {}
  deriving DecidableEq, Repr

namespace ChatClient

/-- A client. An address may end in any number of slashes. -/
def new (key : Text) (baseUrl model : Option Text) : ChatClient :=
  { key := key
    baseUrl := (baseUrl.getD standardBaseUrl).trimEndOf '/'
    model := model.getD standardModel }

/-- The client for a backend of the configuration, or for the standard one if there is none,
and the name of that backend. -/
def ofConfig (env : Environment) (config : ModelConfig) : Text × ChatClient :=
  match config.active? with
  | some b => (b.id, new ((b.resolveKey env).getD []) b.baseUrl (some (b.model.getD standardModel)))
  | none => (standardBackend, new [] none none)

/-- The temperature of a message that comes whole, unless another one is asked for. -/
def wholeTemperature : Single := .ofQuotient false 3 10

/-- The temperature of a message that comes in pieces, unless another one is asked for. -/
def streamTemperature : Single := .ofQuotient false 7 10

/-- The request of a client. -/
def request (c : ChatClient) (messages : List Message) (options : CallOptions) (stream : Bool) :
    ChatRequest where
  model := options.model.getD c.model
  messages := messages
  stream := stream
  temperature := some (options.temperature.getD (if stream then streamTemperature else wholeTemperature))
  maxTokens := options.maxTokens

/-- A character that may not stand in a header. -/
def isForbidden (c : Char) : Bool :=
  (c < ' ' && c ≠ '\t') || c = '\x7f'

/-- The request as it is sent. An address without a machine is found first, then a key that may
not stand in a header, then an address that cannot be asked for. -/
def posted (c : ChatClient) (r : ChatRequest) : Except Unsendable Posted :=
  match Url.ofText? (c.baseUrl ++ "/chat/completions".toList) with
  | none => .error .malformed
  | some address =>
    let url := address.withoutCredentials
    if !address.hasHost then .error (.unreachable address)
    else if c.key.any isForbidden then .error .malformed
    else if !url.isRequestable then .error (.unreachable url)
    else .ok
      { url := url
        authorization := "Bearer ".toList ++ c.key
        contentType := "application/json".toList
        body := r.body }

/-- Sends a request, as often as the policy of the client allows. -/
def send (c : ChatClient) (network : Network) (r : ChatRequest) : Attempts :=
  attempts c.retry fun i => match c.posted r with
    | .error e => .failure e.message
    | .ok p => network i p

/-- The response that came of the attempts, if it has a status of success. -/
def accepted (a : Attempts) : Except Text Response :=
  match a.result with
  | .error e => .error ("Request failed: ".toList ++ e)
  | .ok r =>
    if isSuccess r.status then .ok r
    else .error ("API Error (".toList ++ statusText r.status ++ "): ".toList ++
      Utf8.decodeLossy (r.bytes?.getD []))

/-- What is said of a response whose body is no JSON. -/
def unreadableError : Text :=
  "Failed to parse response: error decoding response body".toList

/-- The message in a response. -/
def wholeMessage (r : Response) : Except Text Text :=
  match ((r.bytes?.bind Utf8.decode?).bind Json.read?) with
  | some v => .ok (messageContent v)
  | none => .error unreadableError

/-- Asks for a message that comes whole. -/
def chat (c : ChatClient) (network : Network) (messages : List Message) (options : CallOptions) :
    Except Text Text :=
  (accepted (c.send network (c.request messages options false))).bind wholeMessage

/-- Asks for a message that comes in pieces. -/
def chatStream (c : ChatClient) (network : Network) (messages : List Message)
    (options : CallOptions) : Except Text (List (Except Text Text)) :=
  (accepted (c.send network (c.request messages options true))).map fun r =>
    deltas r.body r.broken

end ChatClient

end CueStream
