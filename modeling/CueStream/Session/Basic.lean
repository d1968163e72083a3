-- What a session remembers while text streams in, and the changes that are
-- made to it in one go: text is fed, complete segments are drawn, the rest
-- is drained, cues pass the gates.
import CueStream.Classifier.Call
import CueStream.Gate
import CueStream.Segment.Buffer

namespace CueStream

/-! ## The gates of both channels -/

/-- One gate for each channel. -/
structure Gates where
  gesture : Gate
  expression : Gate
  deriving DecidableEq, Repr

namespace Gates

/-- The gate of a channel. -/
def get (gs : Gates) : Channel → Gate
  | .gesture => gs.gesture
  | .expression => gs.expression

/-- The gates with another one for a channel. -/
def set (gs : Gates) (c : Channel) (g : Gate) : Gates :=
  match c with
  | .gesture => { gs with gesture := g }
  | .expression => { gs with expression := g }

/-- Both gates as they were at the start. -/
def reset (gs : Gates) : Gates :=
  ⟨gs.gesture.reset, gs.expression.reset⟩

@[simp]
theorem get_set_self (gs : Gates) (c : Channel) (g : Gate) : (gs.set c g).get c = g := by
  cases c <;> rfl

theorem get_set_of_ne (gs : Gates) {c d : Channel} (g : Gate) (h : c ≠ d) :
    (gs.set c g).get d = gs.get d := by
  cases c <;> cases d <;> first | rfl | exact absurd rfl h

end Gates

/-! ## The state -/

/-- A session. A worker is known by its number; numbers are never used twice. -/
structure Session where
  config : CueConfig
  buffer : Buffer
  /-- The bytes of the buffer that the keyword search has seen. -/
  cursor : Nat := 0
  /-- The keys of the segments of this response. -/
  seen : List Text := []
  /-- Text was fed since the response began. -/
  started : Bool := false
  /-- The worker that is allowed to go on. -/
  active : Option Nat := none
  /-- The number of the next worker. -/
  nextWorker : Nat := 0
  /-- The worker that the next flush has to wait for. -/
  awaited : Option Nat := none
  /-- The number of responses that ended by a reset. -/
  response : Nat := 0
  gates : Gates
  clock : Millis
  deriving DecidableEq, Repr

/-- What a session is busy with. -/
inductive Phase where
  | idle
  | buffering
  | classifying
  deriving DecidableEq, Repr

/-- The written name of the phase. -/
def Phase.label : Phase → Text
  | idle => "idle".toList
  | buffering => "buffering".toList
  | classifying => "classifying".toList

namespace Session

/-- A session that nothing was fed to yet. -/
def new (config : CueConfig) (clock : Millis) : Session where
  config := config
  buffer := { minChars := config.minSegmentChars, keyChars := config.keyChars }
  gates := ⟨{ window := config.cooldown .gesture }, { window := config.cooldown .expression }⟩
  clock := clock

/-- A worker is at work, or text was fed, or neither. -/
def phase (s : Session) : Phase :=
  if s.active.isSome then .classifying
  else if s.started then .buffering
  else .idle

/-! ## Searching for keywords -/

/-- Where the search in a text starts that was searched up to `cursor`: there, or at the start of
the word that goes on there. -/
def scanStart (text : Text) (cursor : Nat) : Nat :=
  match text.splitAtByte? cursor with
  | none => 0
  | some (head, tail) =>
    if tail.head?.any Text.isWordChar then
      Text.byteLength (head.reverse.dropWhile Text.isWordChar)
    else cursor

/-- The part of a text that is searched when it was searched up to `cursor`. -/
def unscanned (text : Text) (cursor : Nat) : Text :=
  match text.splitAtByte? (scanStart text cursor) with
  | none => text
  | some (_, tail) => tail

/-- The cues that the keywords in a text stand for, the gesture first. -/
def keywordTriggers (config : CueConfig) (text : Text) : List Trigger :=
  ((Lexicon.best? text config.gestures).map fun h => Trigger.gesture h.label).toList ++
    ((Lexicon.best? text config.expressions).map fun h => Trigger.expression h.label).toList

/-! ## Passing the gates -/

/-- Passes one cue through the gate of its channel: the session afterwards, and whether the cue
passed. If clips block their channel, the gate stays closed for the length of the stock clip. The
end of the clip is a time of the clock, which begins again at zero after its last millisecond. -/
def passOne (s : Session) (t : Trigger) : Session × Bool :=
  let (gate, passed) := (s.gates.get t.channel).tryOpen s.clock
  if passed then
    let gate := if s.config.blockDuringPlayback then gate.busy s.clock (s.clock + t.clipMs) else gate
    ({ s with gates := s.gates.set t.channel gate }, true)
  else (s, false)

/-- Passes cues through their gates, one after the other: the session afterwards, and the cues
that passed. -/
def pass (s : Session) : List Trigger → Session × List Trigger
  | [] => (s, [])
  | t :: rest =>
    let (s, passed) := s.passOne t
    let (s, others) := s.pass rest
    (s, if passed then t :: others else others)

/-! ## Segments -/

/-- Notes a segment for classification: the session afterwards, and whether the segment is long
enough and not a repetition. -/
def note (s : Session) (segment : Segment) : Session × Bool :=
  if segment.size < s.buffer.minChars ∨ s.seen.contains segment.key then (s, false)
  else ({ s with seen := segment.key :: s.seen }, true)

/-- Notes segments one after the other: the session afterwards, and the segments that are to be
classified. -/
def noteAll (s : Session) : List Segment → Session × List Segment
  | [] => (s, [])
  | segment :: rest =>
    let (s, fresh) := s.note segment
    let (s, others) := s.noteAll rest
    (s, if fresh then segment :: others else others)

/-- Takes the complete segments out of the buffer and notes them. -/
def draw (s : Session) : Session × List Segment :=
  let (segments, buffer) := s.buffer.takeCompleted
  { s with buffer := buffer, cursor := 0 }.noteAll segments

/-- Takes everything out of the buffer and notes it as one last segment. -/
def drain (s : Session) : Session × Option Segment :=
  let (segment, buffer) := s.buffer.flush
  let s := { s with buffer := buffer, cursor := 0 }
  match segment with
  | none => (s, none)
  | some segment =>
    let (s, fresh) := s.note segment
    (s, if fresh then some segment else none)

/-! ## Feeding -/

/-- What feeding a piece of text comes to. -/
structure Fed where
  session : Session
  /-- The cues that passed their gates. -/
  admitted : List Trigger
  /-- The worker that was started. -/
  worker : Option Nat

/-- Starts a worker if none is active and a segment is complete. -/
def startWorker (s : Session) : Session × Option Nat :=
  if s.active.isNone && s.buffer.hasBoundary then
    let id := s.nextWorker
    ({ s with nextWorker := id + 1, active := some id, awaited := some id }, some id)
  else (s, none)

/-- Adds a piece of text, searches what is new in it and starts a worker if one is needed.
`canWork` tells whether workers can be started at all. An empty piece changes nothing. -/
def feed (s : Session) (chunk : Text) (canWork : Bool) : Fed :=
  if chunk.isEmpty then ⟨s, [], none⟩
  else
    let buffer := s.buffer.append chunk
    let found := keywordTriggers s.config (unscanned buffer.text s.cursor)
    let s := { s with started := true, buffer := buffer, cursor := buffer.text.byteLength }
    let (s, admitted) := s.pass found
    let (s, worker) := if canWork then s.startWorker else (s, none)
    ⟨s, admitted, worker⟩

/-! ## Ending a response -/

/-- Ends the work of a worker, if it is still the active one. -/
def release (s : Session) (worker : Nat) : Session :=
  if s.active = some worker then { s with active := none, awaited := none } else s

/-- Begins a new response. The gates stay as they are. -/
def reset (s : Session) : Session :=
  { s with
    buffer := s.buffer.clear
    cursor := 0
    seen := []
    started := false
    active := none
    awaited := none
    response := s.response + 1 }

/-- Begins a new response with both gates as at the start. -/
def fullReset (s : Session) : Session :=
  { s.reset with gates := s.gates.reset }

/-- Notes how long the clip plays that just started on a channel. -/
def playback (s : Session) (c : Channel) (length : Millis) : Session :=
  { s with gates := s.gates.set c ((s.gates.get c).busy s.clock (s.clock.plus length)) }

/-! ## Drawing makes the text shorter -/

theorem buffer_noteAll (s : Session) (segments : List Segment) :
    (s.noteAll segments).1.buffer = s.buffer := by
  induction segments generalizing s with
  | nil => rfl
  | cons segment rest ih =>
    simp only [noteAll, ih, note]
    split <;> rfl

theorem length_noteAll (s : Session) (segments : List Segment) :
    (s.noteAll segments).2.length ≤ segments.length := by
  induction segments generalizing s with
  | nil => simp [noteAll]
  | cons segment rest ih =>
    have := ih (s.note segment).1
    simp only [noteAll]
    split <;> simp only [List.length_cons] <;> omega

/-- The text that is left after a draw, counted twice, and the segments that were drawn. -/
theorem length_draw {s : Session} (h : s.buffer.hasBoundary = true) :
    2 * s.draw.1.buffer.text.length + s.draw.2.length < 2 * s.buffer.text.length := by
  have hlt := Text.length_split_lt h
  have hle := Text.length_split s.buffer.text
  have hseg := length_noteAll { s with buffer := s.buffer.takeCompleted.2, cursor := 0 }
    s.buffer.takeCompleted.1
  have hfil := List.length_filterMap_le s.buffer.segment? s.buffer.text.split.1
  simp only [draw, buffer_noteAll, Buffer.takeCompleted, Buffer.completed, Buffer.replace] at *
  omega

end Session

end CueStream
