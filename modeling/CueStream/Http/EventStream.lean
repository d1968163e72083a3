-- A stream of server-sent events. Bytes come in pieces of any size. They are
-- joined to text, the text to lines, and the lines to events; an empty line
-- ends an event. Only the data of an event is kept.
import CueStream.Http.Response

namespace CueStream.Http

/-! ## Lines -/

namespace Line

/-- The first line of a text and the text behind it, if the line has ended. A carriage return at
the very end may still be followed by a line feed. -/
def first? : Text → Option (Text × Text)
  | [] => none
  | '\n' :: rest => some ([], rest)
  | '\r' :: '\n' :: rest => some ([], rest)
  | ['\r'] => none
  | '\r' :: rest => some ([], rest)
  | c :: rest => (first? rest).map fun p => (c :: p.1, p.2)

theorem length_of_first? {t line rest : Text} (h : first? t = some (line, rest)) :
    rest.length < t.length := by
  fun_induction first? t generalizing line rest with
  | case1 => cases h
  | case2 => cases h; simp
  | case3 =>
    cases h
    simp only [List.length_cons]
    omega
  | case4 => cases h
  | case5 => cases h; simp
  | case6 c t _ _ _ _ ih =>
    simp only [Option.map_eq_some_iff, Prod.exists, Prod.mk.injEq] at h
    obtain ⟨_, _, hp, _, rfl⟩ := h
    have := ih hp
    simp only [List.length_cons]
    omega

/-- The complete lines of a text, and what follows them. -/
def split (t : Text) : List Text × Text :=
  match h : first? t with
  | none => ([], t)
  | some (line, rest) =>
    have := length_of_first? h
    let (lines, tail) := split rest
    (line :: lines, tail)
termination_by t.length

/-- The value of a `data` line. One space behind the colon does not belong to it. -/
def data? (line : Text) : Option Text :=
  let value := line.dropWhile (· ≠ ':')
  if line.takeWhile (· ≠ ':') ≠ "data".toList then none
  else match value with
    | ':' :: ' ' :: rest => some rest
    | ':' :: rest => some rest
    | _ => some []

end Line

/-! ## Events -/

/-- What is known of a stream before the next bytes come. -/
structure EventStream where
  /-- Bytes that do not spell a character yet. -/
  bytes : List UInt8 := []
  /-- A line that has not ended yet. -/
  line : Text := []
  /-- The data lines of the event that has not ended yet. -/
  data : List Text := []
  deriving DecidableEq, Repr

namespace EventStream

/-- The data of an event, from its data lines: they are joined by line feeds. -/
def join (data : List Text) : Text :=
  ['\n'].intercalate data

/-- Takes up one line: the open data lines afterwards, and the data of the event that the line
ends. An event without data lines is none. -/
def takeLine (data : List Text) (line : Text) : List Text × Option Text :=
  if line.isEmpty then ([], if data.isEmpty then none else some (join data))
  else match Line.data? line with
    | some value => (data ++ [value], none)
    | none => (data, none)

/-- Takes up lines one by one. -/
def takeLines (data : List Text) : List Text → List Text × List Text
  | [] => (data, [])
  | line :: rest =>
    let (data, event) := takeLine data line
    let (data, events) := takeLines data rest
    (data, event.toList ++ events)

/-- Takes up bytes: the stream afterwards, and the data of the events that are complete. From the
first byte on that spells no character, all bytes are held back. -/
def feed (s : EventStream) (bytes : List UInt8) : EventStream × List Text :=
  let all := s.bytes ++ bytes
  let text := (Utf8.decodeStart all).1
  let (lines, line) := Line.split (s.line ++ text)
  let (data, events) := takeLines s.data lines
  (⟨all.drop text.byteLength, line, data⟩, events)

/-- What is wrong with a stream that ends here: bytes are left that spell no character. -/
def endError? (s : EventStream) : Option Text :=
  match (Utf8.decodeStart s.bytes).2 with
  | none => none
  | some .incomplete => some "UTF8 error: incomplete utf-8 byte sequence from index 0".toList
  | some (.invalid n) =>
    some ("UTF8 error: invalid utf-8 sequence of ".toList ++ Text.ofNat n ++
      " bytes from index 0".toList)

/-- The text of an error at a connection that broke. -/
def brokenError : Text :=
  "Transport error: error decoding response body".toList

/-- The events and errors of a body that comes in pieces. -/
def items (s : EventStream) (broken : Bool) : List (List UInt8) → List (Except Text Text)
  | [] =>
    (if broken then [.error brokenError] else []) ++ (s.endError?.map .error).toList
  | piece :: rest =>
    let (s, events) := s.feed piece
    events.map .ok ++ s.items broken rest

end EventStream

end CueStream.Http
