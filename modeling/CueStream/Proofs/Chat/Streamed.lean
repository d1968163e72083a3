-- A message that comes in pieces, from the body to the caller. The body holds
-- one event for each piece, and events that bring none between them. It does not
-- matter what these say, nor where the network cuts the body.
import CueStream.Proofs.Chat.Chunk

namespace CueStream

open Http Http.Line

/-! ## What an event brings -/

/-- An event with these data brings no piece: it announces the end, or it is no chunk, or it is a
chunk without a text. -/
def Silent (data : Text) : Prop :=
  data = "[DONE]".toList ∨ (∀ content, ¬ IsChunkText data content) ∨ IsChunkText data none

theorem skim?_done : Json.skim? "[DONE]".toList = none := by
  cbv

theorem delta?_of_isChunkText {data content : Text} (h : IsChunkText data (some content)) :
    delta? data = some content := by
  have hdone : data ≠ "[DONE]".toList := by
    rintro rfl
    obtain ⟨v, hread, -⟩ := h
    cases skim?_done.symm.trans hread
  rw [delta?, if_neg hdone, deltaContent?_of_isChunkText h]

theorem delta?_of_silent {data : Text} (h : Silent data) : delta? data = none := by
  by_cases hend : data = "[DONE]".toList
  · rw [delta?, if_pos hend]
  · rw [delta?, if_neg hend]
    rcases h with h | h | h
    · exact absurd h hend
    · cases hcontent : deltaContent? data with
      | none => rfl
      | some content => exact absurd (isChunkText_of_deltaContent? hcontent) (h (some content))
    · exact deltaContent?_of_isChunkText h

/-! ## Bodies -/

/-- An event with these data, on one line. -/
def eventOf (data : Text) : Text :=
  "data: ".toList ++ data ++ "\n\n".toList

/-- A body that brings these pieces. There is one event for each of them, in this order, whose data
are a chunk on one line. Between them may stand events of one line that bring none; their lines may
end in any way, and may hold something else than data. -/
inductive Streamed : List Text → Text → Prop
  | nil : Streamed [] []
  | piece {data content : Text} {contents : List Text} {body : Text} (oneLine : OneLine data)
      (chunk : IsChunkText data (some content)) (more : Streamed contents body) :
      Streamed (content :: contents) (eventOf data ++ body)
  | silent {line first second : Text} {contents : List Text} {body : Text} (oneLine : OneLine line)
      -- At the start of a body such a mark is none of the line.
      (unmarked : line.head? ≠ some '\ufeff') (firstEnd : EndsLine first (second ++ body))
      (secondEnd : EndsLine second body) (silent : ∀ data, HoldsData line data → Silent data)
      (more : Streamed contents body) :
      Streamed contents (line ++ first ++ second ++ body)

/-- Any texts can be sent as pieces. -/
theorem streamed_flatMap (contents : List Text) :
    Streamed contents (contents.flatMap fun t => eventOf (chunkOf (some t)).compact) := by
  induction contents with
  | nil => exact .nil
  | cons content contents ih =>
    have hlegible := legible_chunkOf (some content)
    have hchunk := isChunk_chunkOf (some content)
    exact .piece (Json.oneLine_compact hlegible) (Json.isChunkText_compact hlegible hchunk) ih

/-- The events of a body bring its pieces. -/
theorem filterMap_events {contents : List Text} {body : Text} (h : Streamed contents body) :
    (EventStream.events body).filterMap delta? = contents := by
  induction h with
  | nil => rw [EventStream.events_nil, List.filterMap_nil]
  | @piece data content contents body oneLine chunk more ih =>
    have hline : OneLine ("data: ".toList ++ data) := oneLine_append (by decide) oneLine
    have hdata : data? ("data: ".toList ++ data) = some data := data?_eq_some_iff.mpr (.inl rfl)
    have hevents : EventStream.events ("data: ".toList ++ data ++ (['\n'] ++ (['\n'] ++ body))) =
        (data? ("data: ".toList ++ data)).toList ++ EventStream.events body :=
      EventStream.events_append hline (.inl rfl) (.inl rfl) nofun
    rw [hdata, Option.toList_some] at hevents
    rw [eventOf, List.append_assoc]
    show (EventStream.events ("data: ".toList ++ data ++ (['\n'] ++ (['\n'] ++ body)))).filterMap
      delta? = _
    rw [hevents, List.singleton_append, List.filterMap_cons, delta?_of_isChunkText chunk, ih]
  | @silent line first second contents body oneLine unmarked firstEnd secondEnd silent more ih =>
    rw [List.append_assoc, List.append_assoc]
    by_cases hopen : second = ['\r'] ∧ body = []
    · obtain ⟨rfl, rfl⟩ := hopen
      rw [EventStream.events_nil] at ih
      rw [List.append_nil] at firstEnd ⊢
      rw [EventStream.events_of_return oneLine firstEnd, ih]
    · rw [EventStream.events_append oneLine firstEnd secondEnd hopen, List.filterMap_append, ih]
      cases hdata : data? line with
      | none => rfl
      | some data =>
        have hnone := delta?_of_silent (silent data (data?_eq_some_iff.mp hdata))
        rw [Option.toList_some, List.filterMap_cons, hnone]
        rfl

/-- The pieces of a body, however it is cut. -/
theorem deltas_of_streamed {contents : List Text} {body : Text} (h : Streamed contents body)
    {pieces : List (List UInt8)} (hbody : pieces.flatten = Utf8.encode body) :
    deltas pieces false = contents.map .ok := by
  rw [deltas, EventStream.items_eq_events hbody, List.filterMap_map, ← filterMap_events h,
    List.map_filterMap]
  rfl

/-! ## Messages -/

/-- The pieces of a message arrive whole and in order. Any texts can be sent as pieces, and any value
that is a chunk may be written on one line for it. If a body of success is made of such events, one for
each of the pieces, and of others that bring none, then the caller gets just these pieces and no error,
wherever the bytes of the body are cut. -/
theorem the_pieces_of_a_message_arrive_whole_and_in_order :
    (∀ contents : List Text,
      Streamed contents (contents.flatMap fun t => eventOf (chunkOf (some t)).compact)) ∧
    (∀ (v : Json) (content : Option Text), v.Legible → IsChunk v content →
      OneLine v.compact ∧ IsChunkText v.compact content) ∧
    ∀ (c : ChatClient) (network : Network) (messages : List Message) (options : CallOptions)
      (r : Response) (contents : List Text) (body : Text),
      (c.send network (c.request messages options true)).result = .ok r →
      isSuccess r.status = true → r.broken = false → r.body.flatten = Utf8.encode body →
      Streamed contents body →
      c.chatStream network messages options = .ok (contents.map .ok) := by
  refine ⟨streamed_flatMap, fun v content h hchunk => ?_, ?_⟩
  · exact ⟨Json.oneLine_compact h, Json.isChunkText_compact h hchunk⟩
  intro c network messages options r contents body hresult hstatus hbroken hbody hstreamed
  have haccepted : ChatClient.accepted (c.send network (c.request messages options true)) =
      .ok r := by
    rw [ChatClient.accepted, hresult]
    exact if_pos hstatus
  rw [ChatClient.chatStream, haccepted, Except.map, hbroken, deltas_of_streamed hstreamed hbody]

/-- The second byte of a letter comes later than the first, between two events stand one that is no
chunk and one that ends the message too early, and the last piece is empty. -/
theorem a_letter_that_is_cut_in_two_arrives_whole :
    let event (content : Text) : Text := eventOf (chunkOf (some content)).compact
    let body := event "né\n".toList ++
      ("data: \x7b\"invalid".toList ++ "\n".toList ++ "\n".toList ++
        ("data:[DONE]".toList ++ "\r\n".toList ++ "\r".toList ++ (event [] ++ [])))
    let bytes := Utf8.encode body
    let r : Response := { status := 200, body := [bytes.take 41, [], bytes.drop 41] }
    let c : ChatClient := { key := [], baseUrl := "http://[::1]".toList, model := [] }
    bytes[40]? = some 0xC3 ∧ bytes[41]? = some 0xA9 ∧
      c.chatStream (fun _ _ => .response r) [] {} = .ok [.ok "né\n".toList, .ok []] := by
  intro event body bytes r c
  have hresult : (c.send (fun _ _ => .response r) (c.request [] {} true)).result = .ok r := by
    decide +kernel
  have hbody : r.body.flatten = Utf8.encode body := by
    decide +kernel
  obtain ⟨-, hline, hstream⟩ := the_pieces_of_a_message_arrive_whole_and_in_order
  have hevent (content : Text) {contents : List Text} {more : Text}
      (h : Streamed contents more) : Streamed (content :: contents) (event content ++ more) := by
    obtain ⟨honeLine, hchunk⟩ :=
      hline _ _ (legible_chunkOf (some content)) (isChunk_chunkOf (some content))
    exact .piece honeLine hchunk h
  have hgarbage : ∀ data, HoldsData "data: \x7b\"invalid".toList data → Silent data := by
    intro data hdata
    cases data?_eq_some_iff.mpr hdata
    have hnone : Json.skim? "\x7b\"invalid".toList = none := by cbv
    refine .inr (.inl ?_)
    rintro content ⟨v, hread, -⟩
    cases hnone.symm.trans hread
  have hdone : ∀ data, HoldsData "data:[DONE]".toList data → Silent data := by
    intro data hdata
    cases data?_eq_some_iff.mpr hdata
    exact .inl rfl
  have hstreamed : Streamed ["né\n".toList, []] body :=
    hevent _ (.silent (by decide) (by decide) (.inl rfl) (.inl rfl) hgarbage
      (.silent (by decide) (by decide) (.inr (.inl rfl)) (.inr (.inr ⟨rfl, by decide⟩)) hdone
        (hevent _ .nil)))
  exact ⟨by decide +kernel, by decide +kernel,
    hstream c _ [] {} r _ body hresult rfl rfl hbody hstreamed⟩

end CueStream
