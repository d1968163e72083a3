-- What one turn can change in a session. Each operation is pinned down once:
-- which parts of the session it touches, and the few ways in which it can
-- come out.
import CueStream.Proofs.Session.Event

namespace CueStream

namespace Session

/-! ## Passing the gates -/

/-- Cues that pass change the gates, and nothing else. -/
theorem pass_eq (s : Session) (ts : List Trigger) :
    (s.pass ts).1 = { s with gates := (s.pass ts).1.gates } := by
  induction ts generalizing s with
  | nil => rfl
  | cons t rest ih =>
    have hone : (s.passOne t).1 = { s with gates := (s.passOne t).1.gates } := by
      unfold passOne
      dsimp only
      split <;> rfl
    simp only [pass]
    rw [ih (s.passOne t).1, hone]

/-! ## Taking text out of the buffer -/

theorem note_eq (s : Session) (segment : Segment) :
    (s.note segment).1 = { s with seen := (s.note segment).1.seen } := by
  unfold note
  split <;> rfl

/-- Noting segments changes the keys that were seen, and nothing else. -/
theorem noteAll_eq (s : Session) (segments : List Segment) :
    (s.noteAll segments).1 = { s with seen := (s.noteAll segments).1.seen } := by
  induction segments generalizing s with
  | nil => rfl
  | cons segment rest ih =>
    simp only [noteAll]
    rw [ih (s.note segment).1, note_eq s segment]

theorem draw_eq (s : Session) :
    s.draw.1 =
      { s with buffer := s.buffer.takeCompleted.2, cursor := 0, seen := s.draw.1.seen } := by
  unfold draw
  exact noteAll_eq _ _

theorem drain_of_none {s : Session} (h : s.buffer.segment? s.buffer.text = none) :
    s.drain = ({ s with buffer := s.buffer.clear, cursor := 0 }, none) := by
  simp only [drain, Buffer.flush, h]

theorem drain_of_some {s : Session} {segment : Segment}
    (h : s.buffer.segment? s.buffer.text = some segment) :
    s.drain =
      (let noted := { s with buffer := s.buffer.clear, cursor := 0 }.note segment
       (noted.1, if noted.2 then some segment else none)) := by
  simp only [drain, Buffer.flush, h]

theorem drain_eq (s : Session) :
    s.drain.1 = { s with buffer := s.buffer.clear, cursor := 0, seen := s.drain.1.seen } := by
  cases h : s.buffer.segment? s.buffer.text with
  | none => rw [drain_of_none h]
  | some segment =>
    rw [drain_of_some h]
    exact note_eq _ segment

/-! ## What every turn keeps -/

/-- What drawing and giving up the place keep, a worker keeps that draws and asks. -/
theorem work_keeps {P : Session → Prop}
    (hdraw : ∀ s, s.buffer.hasBoundary = true → P s → P s.draw.1)
    (hrelease : ∀ s id, P s → P (s.release id)) {s : Session} (h : P s) (id : Nat)
    (batch : List Segment) : P (s.work id batch).session := by
  fun_induction work id s batch with
  | case1 => exact h
  | case2 s segment others hc ha ih => exact ih h
  | case3 => exact h
  | case4 => exact h
  | case5 s ha hb hlt ih => exact ih (hdraw s hb h)
  | case6 s ha hb => exact hrelease s id h

/-- The parts of a session that no turn of a task changes. -/
structure SameFrame (s t : Session) : Prop where
  config : t.config = s.config
  minChars : t.buffer.minChars = s.buffer.minChars
  keyChars : t.buffer.keyChars = s.buffer.keyChars
  started : t.started = s.started
  nextWorker : t.nextWorker = s.nextWorker
  response : t.response = s.response
  clock : t.clock = s.clock

theorem SameFrame.rfl {s : Session} : SameFrame s s :=
  ⟨.refl _, .refl _, .refl _, .refl _, .refl _, .refl _, .refl _⟩

theorem SameFrame.trans {s t u : Session} (h : SameFrame s t) (h' : SameFrame t u) :
    SameFrame s u :=
  ⟨h'.config.trans h.config, h'.minChars.trans h.minChars, h'.keyChars.trans h.keyChars,
    h'.started.trans h.started, h'.nextWorker.trans h.nextWorker, h'.response.trans h.response,
    h'.clock.trans h.clock⟩

theorem sameFrame_pass (s : Session) (ts : List Trigger) : SameFrame s (s.pass ts).1 := by
  rw [pass_eq]
  exact ⟨rfl, rfl, rfl, rfl, rfl, rfl, rfl⟩

theorem sameFrame_draw (s : Session) : SameFrame s s.draw.1 := by
  rw [draw_eq]
  exact ⟨rfl, rfl, rfl, rfl, rfl, rfl, rfl⟩

theorem sameFrame_drain (s : Session) : SameFrame s s.drain.1 := by
  rw [drain_eq]
  exact ⟨rfl, rfl, rfl, rfl, rfl, rfl, rfl⟩

theorem sameFrame_release (s : Session) (id : Nat) : SameFrame s (s.release id) := by
  unfold release
  split
  · exact ⟨rfl, rfl, rfl, rfl, rfl, rfl, rfl⟩
  · exact .rfl

theorem sameFrame_work (id : Nat) (s : Session) (batch : List Segment) :
    SameFrame s (s.work id batch).session :=
  work_keeps (fun t _ h => h.trans (sameFrame_draw t)) (fun t k h => h.trans (sameFrame_release t k))
    .rfl id batch

theorem gates_release (s : Session) (id : Nat) : (s.release id).gates = s.gates := by
  unfold release
  split <;> rfl

theorem buffer_release (s : Session) (id : Nat) : (s.release id).buffer = s.buffer := by
  unfold release
  split <;> rfl

/-- Drawing and asking leave the gates alone. -/
theorem gates_work (id : Nat) (s : Session) (batch : List Segment) :
    (s.work id batch).session.gates = s.gates := by
  refine work_keeps (P := fun t => t.gates = s.gates) ?_ ?_ rfl id batch
  · intro t _ h
    rw [draw_eq]
    exact h
  · intro t k h
    rw [gates_release]
    exact h

/-! ## Feeding -/

theorem feed_nil (s : Session) (canWork : Bool) : s.feed [] canWork = ⟨s, [], none⟩ := rfl

/-- The session when a piece of text is in it and its keywords have passed the gates, before a
worker is started. -/
def heard (s : Session) (chunk : Text) : Session :=
  let buffer := s.buffer.append chunk
  let next := { s with started := true, buffer := buffer, cursor := buffer.text.byteLength }
  (next.pass (keywordTriggers s.config (unscanned buffer.text s.cursor))).1

theorem heard_eq (s : Session) (chunk : Text) :
    s.heard chunk =
      { s with
        started := true
        buffer := s.buffer.append chunk
        cursor := (s.buffer.append chunk).text.byteLength
        gates := (s.heard chunk).gates } := by
  unfold heard
  exact pass_eq _ _

/-- Two sessions in the same response, with the same workers in their places. -/
structure SamePlaces (s t : Session) : Prop where
  active : t.active = s.active
  awaited : t.awaited = s.awaited
  nextWorker : t.nextWorker = s.nextWorker
  response : t.response = s.response

theorem samePlaces_heard (s : Session) (chunk : Text) : SamePlaces s (s.heard chunk) := by
  rw [heard_eq]
  exact ⟨rfl, rfl, rfl, rfl⟩

/-- A session in which a new worker was started. -/
def hired (s : Session) : Session :=
  { s with
    nextWorker := s.nextWorker + 1
    active := some s.nextWorker
    awaited := some s.nextWorker }

theorem startWorker_eq (s : Session) :
    s.startWorker =
      if s.active.isNone && s.buffer.hasBoundary then (s.hired, some s.nextWorker) else (s, none) :=
  rfl

theorem feed_eq (s : Session) {chunk : Text} (h : chunk ≠ []) (canWork : Bool) :
    (s.feed chunk canWork).session =
        (if canWork then (s.heard chunk).startWorker else (s.heard chunk, none)).1 ∧
      (s.feed chunk canWork).worker =
        (if canWork then (s.heard chunk).startWorker else (s.heard chunk, none)).2 := by
  have hne : chunk.isEmpty = false := by
    rw [List.isEmpty_eq_false_iff]
    exact h
  simp only [feed, hne]
  exact ⟨rfl, rfl⟩

/-- Feeding either starts no worker, or one where there was none. -/
theorem feed_cases (s : Session) {chunk : Text} (h : chunk ≠ []) (canWork : Bool) :
    ((s.feed chunk canWork).session = s.heard chunk ∧ (s.feed chunk canWork).worker = none ∧
        (canWork = true → s.active = none → (s.buffer.append chunk).hasBoundary = false)) ∨
      ((s.feed chunk canWork).session = (s.heard chunk).hired ∧
        (s.feed chunk canWork).worker = some s.nextWorker ∧ s.active = none) := by
  obtain ⟨hsession, hworker⟩ := feed_eq s h canWork
  have heq := heard_eq s chunk
  rw [hsession, hworker]
  cases canWork with
  | false => exact .inl ⟨rfl, rfl, by simp⟩
  | true =>
    simp only [if_true, startWorker_eq]
    split
    · rename_i hc
      rw [heq] at hc
      simp only [Bool.and_eq_true, Option.isNone_iff_eq_none] at hc
      exact .inr ⟨rfl, by rw [heq], hc.1⟩
    · rename_i hc
      rw [heq] at hc
      simp only [Bool.and_eq_true, Option.isNone_iff_eq_none, not_and, Bool.not_eq_true] at hc
      exact .inl ⟨rfl, rfl, fun _ ha => hc ha⟩

/-- Feeding moves nobody, or gives the place to a new worker where there was none. -/
theorem feed_places (s : Session) (chunk : Text) (canWork : Bool) :
    ((s.feed chunk canWork).worker = none ∧ SamePlaces s (s.feed chunk canWork).session) ∨
      ((s.feed chunk canWork).worker = some s.nextWorker ∧ s.active = none ∧
        (s.feed chunk canWork).session = (s.heard chunk).hired) := by
  by_cases hc : chunk = []
  · subst hc
    exact .inl ⟨rfl, rfl, rfl, rfl, rfl⟩
  · rcases feed_cases s hc canWork with ⟨hs, hw, -⟩ | ⟨hs, hw, hidle⟩
    · rw [hs]
      exact .inl ⟨hw, samePlaces_heard s chunk⟩
    · exact .inr ⟨hw, hidle, hs⟩

theorem buffer_feed (s : Session) (chunk : Text) (canWork : Bool) :
    (s.feed chunk canWork).session.buffer = s.buffer.append chunk := by
  by_cases hc : chunk = []
  · subst hc
    unfold Buffer.append
    rw [List.append_nil]
    rfl
  · have heq := heard_eq s chunk
    rcases feed_cases s hc canWork with ⟨hs, -⟩ | ⟨hs, -⟩
    · rw [hs, heq]
    · rw [hs, heq]
      rfl

/-- All of the buffer was searched when a piece was fed. -/
theorem cursor_feed (s : Session) {chunk : Text} (hc : chunk ≠ []) (canWork : Bool) :
    (s.feed chunk canWork).session.cursor =
      (s.feed chunk canWork).session.buffer.text.byteLength := by
  have heq := heard_eq s chunk
  rcases feed_cases s hc canWork with ⟨hs, -⟩ | ⟨hs, -⟩
  · rw [hs, heq]
  · rw [hs, heq]
    rfl

/-- Feeding notes nothing. -/
theorem seen_feed (s : Session) (chunk : Text) (canWork : Bool) :
    (s.feed chunk canWork).session.seen = s.seen := by
  by_cases hc : chunk = []
  · subst hc
    rfl
  · have heq := heard_eq s chunk
    rcases feed_cases s hc canWork with ⟨hs, -⟩ | ⟨hs, -⟩
    · rw [hs, heq]
    · rw [hs, heq]
      rfl

/-- Where no worker can be started, feeding starts none. -/
theorem feed_of_not_canWork (s : Session) (chunk : Text) :
    (s.feed chunk false).worker = none ∧ (s.feed chunk false).session.awaited = s.awaited := by
  by_cases hc : chunk = []
  · subst hc
    exact ⟨rfl, rfl⟩
  · obtain ⟨hsession, hworker⟩ := feed_eq s hc false
    rw [hsession, hworker, heard_eq s chunk]
    exact ⟨rfl, rfl⟩

/-! ## The turn of a worker -/

/-- A worker that is not the active one any more stops before it does anything. -/
theorem work_of_revoked {id : Nat} {s : Session} (h : s.active ≠ some id) :
    s.work id [] = ⟨s, none, [.ended (.worker id)]⟩ := by
  rw [work, if_pos h]

/-- The active worker goes on until it has asked the model, and stays active, or until nothing
complete is left, and then leaves its place. -/
theorem work_cases {id : Nat} {s : Session} (h : s.active = some id) (batch : List Segment) :
    (∃ segment others, (s.work id batch).stage = some (.waiting segment others) ∧
        (s.work id batch).session.active = some id ∧
        (s.work id batch).session.awaited = s.awaited) ∨
      ((s.work id batch).stage = none ∧ (s.work id batch).session.active = none ∧
        (s.work id batch).session.awaited = none ∧
        (s.work id batch).session.buffer.hasBoundary = false) := by
  fun_induction work id s batch with
  | case1 s segment others call hc => exact .inl ⟨segment, others, rfl, h, rfl⟩
  | case2 s segment others hc ha ih => exact ih h
  | case3 s segment others hc ha => exact absurd h ha
  | case4 s ha => exact absurd h ha
  | case5 s ha hb hlt ih =>
    have hdraw := draw_eq s
    rw [hdraw] at ih ⊢
    exact ih h
  | case6 s ha hb =>
    refine .inr ⟨rfl, ?_⟩
    unfold release
    rw [if_pos h]
    exact ⟨rfl, rfl, by simpa using hb⟩

/-- A worker asks about the segments that it hands over, and about nothing else. -/
theorem callsOf_work (id : Nat) (s : Session) (batch : List Segment) :
    callsOf (s.work id batch).events =
      questions s.config (segmentsOf (s.work id batch).events) := by
  fun_induction work id s batch with
  | case1 s segment others call hc => exact (questions_of_some hc).symm
  | case2 s segment others hc ha ih =>
    unfold Turn.after
    rw [callsOf_append, segmentsOf_append, questions_append, ih]
    exact congrArg (· ++ _) (questions_of_none hc).symm
  | case3 s segment others hc ha => exact (questions_of_none hc).symm
  | case4 => rfl
  | case5 s ha hb hlt ih => rwa [(sameFrame_draw s).config] at ih
  | case6 => rfl

/-- A worker that draws and asks shows nothing but the segments that it hands over, its questions
and its end. -/
theorem work_events {P : Event → Prop} {id : Nat}
    (hsubmitted : ∀ segment, P (.submitted (.worker id) segment))
    (hasked : ∀ call, P (.asked (.worker id) call)) (hended : P (.ended (.worker id))) (s : Session)
    (batch : List Segment) : ∀ e ∈ (s.work id batch).events, P e := by
  fun_induction work id s batch with
  | case1 => simp [hsubmitted, hasked]
  | case2 s segment others hc ha ih => simpa [Turn.after, hsubmitted] using ih
  | case3 => simp [hsubmitted, hended]
  | case4 => simp [hended]
  | case5 s ha hb hlt ih => exact ih
  | case6 => simp [hended]

/-- No cue comes up while a worker draws and asks. -/
theorem no_cue_work (id : Nat) (s : Session) (batch : List Segment) :
    ∀ e ∈ (s.work id batch).events, e.isCue = false :=
  work_events (P := fun e => e.isCue = false) (fun _ => rfl) (fun _ => rfl) rfl s batch

theorem resumeWork_of_revoked {fails : Trigger → Bool} {id : Nat} {s : Session}
    (h : s.active ≠ some id) (i : Intent) (others : List Segment) :
    s.resumeWork fails id i others = ⟨s, none, [.ended (.worker id)]⟩ := by
  unfold resumeWork
  rw [if_pos h]

/-- The active worker takes up an answer: it hands over the cues, and goes on unless the receiver
broke down over them. -/
theorem resumeWork_of_active {id : Nat} {s : Session} (h : s.active = some id)
    (fails : Trigger → Bool) (i : Intent) (others : List Segment) :
    s.resumeWork fails id i others =
      if (s.emit fails (.worker id) i.triggers).2.2 then
        ((s.pass i.triggers).1.work id others).after (s.emit fails (.worker id) i.triggers).2.1
      else
        ⟨(s.pass i.triggers).1.release id, none,
          (s.emit fails (.worker id) i.triggers).2.1 ++ [.ended (.worker id)]⟩ := by
  unfold resumeWork
  rw [if_neg (not_not_intro h)]
  rfl

theorem callsOf_resumeWork (fails : Trigger → Bool) (id : Nat) (s : Session) (i : Intent)
    (others : List Segment) :
    callsOf (s.resumeWork fails id i others).events =
      questions s.config (segmentsOf (s.resumeWork fails id i others).events) := by
  by_cases h : s.active = some id
  · rw [resumeWork_of_active h]
    split
    · simp [Turn.after, callsOf_work, (sameFrame_pass s i.triggers).config]
    · rw [callsOf_append, segmentsOf_append, callsOf_emit, segmentsOf_emit]
      rfl
  · rw [resumeWork_of_revoked h]
    rfl

/-- The ways in which the turn of a worker comes out: it was revoked and ends without a trace, it
asks the model and stays active, or it ends and leaves its place. -/
inductive Worked (id : Nat) (s : Session) (t : Turn WorkerStage) : Prop
  | revoked (h : s.active ≠ some id) (hsession : t.session = s) (hstage : t.stage = none)
  | asks {segment : Segment} {others : List Segment} (h : s.active = some id)
      (hactive : t.session.active = some id) (hawaited : t.session.awaited = s.awaited)
      (hstage : t.stage = some (.waiting segment others))
  | ends (h : s.active = some id) (hactive : t.session.active = none)
      (hawaited : t.session.awaited = none) (hstage : t.stage = none)

theorem worked_work_of_active {id : Nat} {s : Session} (h : s.active = some id)
    (batch : List Segment) : Worked id s (s.work id batch) := by
  rcases work_cases h batch with ⟨segment, others, hstage, hactive, hawaited⟩ |
    ⟨hstage, hactive, hawaited, -⟩
  · exact .asks h hactive hawaited hstage
  · exact .ends h hactive hawaited hstage

theorem worked_work (id : Nat) (s : Session) : Worked id s (s.work id []) := by
  by_cases h : s.active = some id
  · exact worked_work_of_active h []
  · rw [work_of_revoked h]
    exact .revoked h rfl rfl

theorem worked_resumeWork (fails : Trigger → Bool) (id : Nat) (s : Session) (i : Intent)
    (others : List Segment) (events : List Event) :
    Worked id s ((s.resumeWork fails id i others).after events) := by
  by_cases h : s.active = some id
  · have hpass := pass_eq s i.triggers
    have hactive : (s.pass i.triggers).1.active = some id := by
      rw [hpass]
      exact h
    rw [resumeWork_of_active h]
    split
    · cases worked_work_of_active hactive others with
      | revoked hr => exact absurd hactive hr
      | asks _ ha hw hs => exact .asks h ha (by rw [Turn.after, Turn.after, hw, hpass]) hs
      | ends _ ha hw hs => exact .ends h ha hw hs
    · refine .ends h ?_ ?_ rfl
      all_goals
        simp only [Turn.after, release]
        rw [if_pos hactive]
  · rw [resumeWork_of_revoked h]
    exact .revoked h rfl rfl

/-- What the gates, drawing and giving up the place keep, a worker keeps that takes up an answer. -/
theorem resumeWork_keeps {P : Session → Prop} (hpass : ∀ s ts, P s → P (s.pass ts).1)
    (hdraw : ∀ s, s.buffer.hasBoundary = true → P s → P s.draw.1)
    (hrelease : ∀ s id, P s → P (s.release id)) {s : Session} (h : P s) (fails : Trigger → Bool)
    (id : Nat) (i : Intent) (others : List Segment) :
    P (s.resumeWork fails id i others).session := by
  by_cases ha : s.active = some id
  · have hpassed := hpass s i.triggers h
    rw [resumeWork_of_active ha]
    split
    · exact work_keeps hdraw hrelease hpassed id others
    · exact hrelease _ id hpassed
  · rw [resumeWork_of_revoked ha]
    exact h

theorem sameFrame_resumeWork (fails : Trigger → Bool) (id : Nat) (s : Session) (i : Intent)
    (others : List Segment) : SameFrame s (s.resumeWork fails id i others).session :=
  resumeWork_keeps (fun t ts h => h.trans (sameFrame_pass t ts))
    (fun t _ h => h.trans (sameFrame_draw t)) (fun t k h => h.trans (sameFrame_release t k)) .rfl
    fails id i others

/-! ## The turn of a flush -/

theorem finish_session (id : Nat) (s : Session) : (s.finish id).session = s.drain.1 := by
  simp only [finish]
  split
  · rfl
  · split <;> rfl

/-- A flush that has taken the rest out of the buffer is over, or waits for the model on behalf of
the response that is under way. -/
theorem finish_stage (id : Nat) (s : Session) :
    (s.finish id).stage = none ∨
      ∃ segment, (s.finish id).stage = some (.waiting segment s.response) := by
  simp only [finish]
  split
  · exact .inl rfl
  · split
    · exact .inr ⟨_, by rw [(sameFrame_drain s).response]⟩
    · exact .inl rfl

theorem callsOf_finish (id : Nat) (s : Session) :
    callsOf (s.finish id).events = questions s.config (segmentsOf (s.finish id).events) := by
  have hconfig := (sameFrame_drain s).config
  simp only [finish]
  split
  · rfl
  · rename_i segment hsegment
    rw [hconfig]
    split
    · rename_i call hc
      exact (questions_of_some hc).symm
    · rename_i hc
      exact (questions_of_none hc).symm

/-- A flush waits for the worker that is to be waited for, if there is one that has not ended, and
drains the buffer otherwise. -/
theorem startFlush_cases (lives : Nat → Bool) (id : Nat) (s : Session) :
    (∃ worker, s.awaited = some worker ∧ lives worker = true ∧
        s.startFlush lives id = ⟨{ s with awaited := none }, some (.joining worker), []⟩) ∨
      ((∀ worker, s.awaited = some worker → lives worker = false) ∧
        s.startFlush lives id = { s with awaited := none }.finish id) := by
  unfold startFlush
  cases ha : s.awaited with
  | none =>
    refine .inr ⟨by simp, ?_⟩
    have : { s with awaited := none } = s := by rw [← ha]
    rw [this]
  | some worker =>
    cases hl : lives worker with
    | true => exact .inl ⟨worker, rfl, hl, by simp [hl]⟩
    | false => exact .inr ⟨by simp [hl], by simp [hl]⟩

/-- A flush that asks the model does so on behalf of the response that is under way. -/
theorem response_of_startFlush (lives : Nat → Bool) (id : Nat) (s : Session) (segment : Segment)
    (response : Nat) (h : (s.startFlush lives id).stage = some (.waiting segment response)) :
    response = s.response := by
  rcases startFlush_cases lives id s with ⟨worker, -, -, hstart⟩ | ⟨-, hstart⟩
  · rw [hstart] at h
    cases h
  · rw [hstart] at h
    rcases finish_stage id { s with awaited := none } with hn | ⟨x, hx⟩
    · rw [hn] at h
      cases h
    · rw [hx] at h
      cases h
      rfl

/-- No turn of a flush takes a worker's place or gives it one. -/
theorem active_startFlush (lives : Nat → Bool) (id : Nat) (s : Session) :
    (s.startFlush lives id).session.active = s.active ∧
      (s.startFlush lives id).session.awaited = none ∧
      SameFrame s (s.startFlush lives id).session := by
  rcases startFlush_cases lives id s with ⟨worker, -, -, hstart⟩ | ⟨-, hstart⟩
  · rw [hstart]
    exact ⟨rfl, rfl, rfl, rfl, rfl, rfl, rfl, rfl, rfl⟩
  · rw [hstart, finish_session, drain_eq]
    exact ⟨rfl, rfl, rfl, rfl, rfl, rfl, rfl, rfl, rfl⟩

/-- A flush that drains the buffer leaves the gates alone. -/
theorem gates_startFlush (lives : Nat → Bool) (id : Nat) (s : Session) :
    (s.startFlush lives id).session.gates = s.gates := by
  rcases startFlush_cases lives id s with ⟨worker, -, -, hstart⟩ | ⟨-, hstart⟩
  · rw [hstart]
  · rw [hstart, finish_session, drain_eq]

/-- No cue comes up while a flush drains the buffer and asks. -/
theorem no_cue_startFlush (lives : Nat → Bool) (id : Nat) (s : Session) :
    ∀ e ∈ (s.startFlush lives id).events, e.isCue = false := by
  rcases startFlush_cases lives id s with ⟨worker, -, -, hstart⟩ | ⟨-, hstart⟩
  · rw [hstart]
    simp
  · rw [hstart]
    simp only [finish]
    split
    · simp [Event.isCue]
    · split
      · simp [Event.isCue]
      · simp [Event.isCue]

theorem callsOf_startFlush (lives : Nat → Bool) (id : Nat) (s : Session) :
    callsOf (s.startFlush lives id).events =
      questions s.config (segmentsOf (s.startFlush lives id).events) := by
  rcases startFlush_cases lives id s with ⟨worker, -, -, hstart⟩ | ⟨-, hstart⟩
  · rw [hstart]
    rfl
  · rw [hstart]
    exact callsOf_finish id { s with awaited := none }

theorem resumeFlush_of_over {fails : Trigger → Bool} {s : Session} {response : Nat}
    (h : s.response ≠ response) (id : Nat) (i : Intent) :
    s.resumeFlush fails id i response = ⟨s, none, [.ended (.flush id)]⟩ := by
  unfold resumeFlush
  rw [if_pos h]

theorem resumeFlush_of_current (fails : Trigger → Bool) (s : Session) (id : Nat) (i : Intent) :
    s.resumeFlush fails id i s.response =
      ⟨(s.pass i.triggers).1, none,
        (s.emit fails (.flush id) i.triggers).2.1 ++ [.ended (.flush id)]⟩ := by
  unfold resumeFlush
  rw [if_neg (not_not_intro rfl)]
  rfl

/-- A flush that takes up an answer changes the gates at most, and is over. -/
theorem resumeFlush_eq (fails : Trigger → Bool) (s : Session) (id : Nat) (i : Intent)
    (response : Nat) :
    (s.resumeFlush fails id i response).stage = none ∧
      (s.resumeFlush fails id i response).session =
        { s with gates := (s.resumeFlush fails id i response).session.gates } := by
  by_cases h : s.response = response
  · subst h
    rw [resumeFlush_of_current]
    exact ⟨rfl, pass_eq s i.triggers⟩
  · rw [resumeFlush_of_over h]
    exact ⟨rfl, rfl⟩

/-- What the turn of a flush comes to: it takes no worker's place, and if it asks the model it does
so on behalf of the response that is under way. -/
structure Flushed (s : Session) (t : Turn FlushStage) : Prop where
  active : t.session.active = s.active
  awaited : t.session.awaited = none ∨ t.session.awaited = s.awaited
  frame : SameFrame s t.session
  stage : ∀ segment response, t.stage = some (.waiting segment response) → response = s.response

theorem flushed_startFlush (lives : Nat → Bool) (id : Nat) (s : Session) :
    Flushed s (s.startFlush lives id) := by
  obtain ⟨hactive, hawaited, hframe⟩ := active_startFlush lives id s
  exact ⟨hactive, .inl hawaited, hframe, response_of_startFlush lives id s⟩

theorem flushed_resumeFlush (fails : Trigger → Bool) (s : Session) (id : Nat) (i : Intent)
    (response : Nat) (events : List Event) :
    Flushed s ((s.resumeFlush fails id i response).after events) := by
  obtain ⟨hstage, hsession⟩ := resumeFlush_eq fails s id i response
  unfold Turn.after
  rw [hstage, hsession]
  exact ⟨rfl, .inr rfl, ⟨rfl, rfl, rfl, rfl, rfl, rfl, rfl⟩, fun _ _ hw => nomatch hw⟩

/-- A flush that takes up an answer hands over no segment and asks nothing. -/
theorem segmentsOf_resumeFlush (fails : Trigger → Bool) (s : Session) (id : Nat) (i : Intent)
    (response : Nat) :
    segmentsOf (s.resumeFlush fails id i response).events = [] ∧
      callsOf (s.resumeFlush fails id i response).events = [] := by
  by_cases h : s.response = response
  · subst h
    rw [resumeFlush_of_current, segmentsOf_append, callsOf_append, segmentsOf_emit, callsOf_emit]
    exact ⟨rfl, rfl⟩
  · rw [resumeFlush_of_over h]
    exact ⟨rfl, rfl⟩

end Session

end CueStream
