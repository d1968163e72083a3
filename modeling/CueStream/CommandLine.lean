-- The command line: it asks the model for a reply to a prompt, shows the
-- reply as it streams in, and reports the cues that were found on the way.
import CueStream.Chat.Client
import CueStream.Classifier.Dominant
import CueStream.Config.File
import CueStream.Session.Schedule

namespace CueStream.CommandLine

/-- What the command is started with. -/
structure Invocation where
  args : List Text
  /-- The text of the file that chooses the model. -/
  modelFile : Option Text
  /-- The text of the file with the settings of the session. -/
  cueFile : Option Text
  environment : Environment
  /-- The network of each call to the model. The reply is call 0. -/
  network : Nat → Network

/-- What the command leaves behind. -/
structure Report where
  exitCode : Nat
  /-- The reply as it was shown. -/
  shown : Text
  /-- The cues in the order in which they came. -/
  triggers : List Trigger := []
  logs : List Text := []
  /-- The lines that say why the command failed. -/
  errors : List Text := []
  deriving DecidableEq, Repr

/-- How a cue is shown. -/
def triggerLine (t : Trigger) : Text :=
  (match t.channel with
    | .gesture => "Gesture"
    | .expression => "Expression").toList ++ ": ".toList ++ t.label

/-- The prompt: all arguments with spaces between them. -/
def prompt (args : List Text) : Text :=
  [' '].intercalate args

/-- The lines of a cause, each indented. -/
def causeLines (cause : Text) : List Text :=
  ((cause.splitOn '\n').filter (!·.isEmpty)).map fun line => List.replicate 4 ' ' ++ line

/-- A report of a command that failed. -/
def failed (errors : List Text) : Report :=
  { exitCode := 1, shown := [], errors := errors }

/-- The settings of a session. A model for classification that is not named there is taken from
the choice of models. -/
def sessionConfig (model : ModelConfig) (cue : CueConfig) : CueConfig :=
  { cue with model := cue.model.or model.systemModel }

/-- How the model answers the calls of a session. -/
def answer (client : ChatClient) (network : Nat → Network) (count : Nat) (call : Classifier.Call) :
    Answer :=
  match client.chat (network (count + 1)) call.messages call.options with
  | .ok t => .text t
  | .error e => .error e

/-- The pieces of a reply up to the first error, and that error. -/
def pieces : List (Except Text Text) → List Text × Option Text
  | [] => ([], none)
  | .ok t :: rest =>
    let (ts, e) := pieces rest
    (t :: ts, e)
  | .error e :: _ => ([], some e)

/-- The cues that were handed over. -/
def delivered (events : List Event) : List Trigger :=
  events.filterMap fun
    | .delivered _ t => some t
    | _ => none

/-- Feeds the pieces of a reply to a session and flushes it: the cues that were found. -/
def listen (st : Setting) (config : CueConfig) (reply : List Text) : List Trigger :=
  let start : Schedule := { world := .new config 0 }
  let (s, events) := reply.foldl
    (fun acc piece =>
      let (s, events) := acc.1.feed st piece true
      (s, acc.2 ++ events))
    (start, [])
  let (_, later) := s.flush st
  delivered (events ++ later)

/-- The log line about the whole reply. -/
def dominantLog (reply : Text) : Text :=
  match Classifier.dominant? reply Classifier.standardMinScore with
  | some t => "[Demo] Dominant intent: ".toList ++ t.label
  | none => "[Demo] No dominant intent".toList

/-- Runs the command. -/
def run (i : Invocation) : Report :=
  let prompt := prompt i.args
  if prompt.trim.isEmpty then failed ["Error: usage: intent_stream <prompt...>".toList]
  else
    let model := ConfigFile.loadModel i.modelFile
    let config := sessionConfig model (ConfigFile.loadCue i.cueFile)
    let client := (ChatClient.ofConfig i.environment model).2
    match client.chatStream (i.network 0) [.user prompt] {} with
    | .error e =>
      failed (["Error: failed to start chat stream".toList, "Caused by:".toList] ++ causeLines e)
    | .ok items =>
      let (reply, error) := pieces items
      let setting : Setting := ⟨fun _ => false, answer client i.network, false⟩
      { exitCode := 0
        shown := reply.flatten ++ ['\n']
        triggers := listen setting config reply
        logs := (error.map fun e => "[Demo] Stream error: ".toList ++ e).toList ++
          [dominantLog reply.flatten] }

end CueStream.CommandLine
