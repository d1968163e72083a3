-- The order in which answers are acted out. Segments leave the buffer in the
-- order of the text, and as long as each flush is left to itself, the model
-- is asked about them and answers in that order.
import CueStream.Proofs.Session.Joining

namespace CueStream

/-! ## Texts in order -/

/-- The texts stand in `t`, each behind the one before it. -/
def InOrder : List Text → Text → Prop
  | [], _ => True
  | x :: rest, t => ∃ front more, t = front ++ x ++ more ∧ InOrder rest more

theorem InOrder.behind {xs : List Text} {t : Text} (h : InOrder xs t) (front : Text) :
    InOrder xs (front ++ t) := by
  cases xs with
  | nil => trivial
  | cons x rest =>
    obtain ⟨gap, more, rfl, hrest⟩ := h
    exact ⟨front ++ gap, more, by simp only [List.append_assoc], hrest⟩

theorem InOrder.append {xs ys : List Text} {t u : Text} (hx : InOrder xs t) (hy : InOrder ys u) :
    InOrder (xs ++ ys) (t ++ u) := by
  induction xs generalizing t with
  | nil => exact hy.behind t
  | cons x rest ih =>
    obtain ⟨gap, more, rfl, hrest⟩ := hx
    exact ⟨gap, more ++ u, by simp only [List.append_assoc], ih hrest⟩

theorem InOrder.sublist {xs ys : List Text} {t : Text} (h : InOrder ys t) (hs : xs.Sublist ys) :
    InOrder xs t := by
  induction hs generalizing t with
  | slnil => trivial
  | cons y _ ih =>
    obtain ⟨gap, more, rfl, hrest⟩ := h
    exact (ih hrest).behind (gap ++ y)
  | cons_cons y _ ih =>
    obtain ⟨gap, more, rfl, hrest⟩ := h
    exact ⟨gap, more, rfl, ih hrest⟩

/-- The segments of raw passages stand where the passages stand. -/
theorem InOrder.segments {raws : List Text} {t : Text} (h : InOrder raws t) (b : Buffer) :
    InOrder ((raws.filterMap b.segment?).map Segment.text) t := by
  induction raws generalizing t with
  | nil => trivial
  | cons raw rest ih =>
    obtain ⟨gap, more, rfl, hrest⟩ := h
    cases hs : b.segment? raw with
    | none =>
      rw [List.filterMap_cons_none hs]
      exact (ih hrest).behind (gap ++ raw)
    | some segment =>
      obtain ⟨left, right, hraw⟩ := Buffer.infix_of_segment? hs
      rw [List.filterMap_cons_some hs, List.map_cons]
      refine ⟨gap ++ left, right ++ more, ?_, (ih hrest).behind right⟩
      rw [← hraw]
      simp only [List.append_assoc]

/-- What stands in front of the gaps of a text stands there in order. -/
theorem Text.inOrder_split (t : Text) : ∃ front, t = front ++ t.split.2 ∧ InOrder t.split.1 front := by
  fun_induction Text.split t with
  | case1 t h => exact ⟨[], rfl, trivial⟩
  | case2 t k h _ passages tail hs ih =>
    rw [hs] at ih
    obtain ⟨front, hafter, hrest⟩ := ih
    obtain ⟨hwhole, -⟩ := Cut.whole_of_first? h
    refine ⟨k.before ++ (k.gap ++ front), ?_, [], k.gap ++ front, rfl, hrest.behind k.gap⟩
    rw [← hwhole]
    unfold Cut.whole
    rw [hafter]
    simp only [List.append_assoc]

/-! ## Segments that have left the buffer -/

namespace Session

/-- Of the text `t` all but what is in the buffer was taken out of it, and the segments stand in
order in what was taken. -/
def HasTaken (t : Text) (segments : List Segment) (s : Session) : Prop :=
  ∃ taken, t = taken ++ s.buffer.text ∧ InOrder (segments.map Segment.text) taken

variable {t : Text} {segments : List Segment} {s : Session}

theorem HasTaken.congr (h : HasTaken t segments s) {s' : Session} (hbuffer : s'.buffer = s.buffer) :
    HasTaken t segments s' := by
  obtain ⟨taken, ht, horder⟩ := h
  exact ⟨taken, hbuffer ▸ ht, horder⟩

theorem HasTaken.sublist {more : List Segment} (h : HasTaken t more s)
    (hs : segments.Sublist more) : HasTaken t segments s := by
  obtain ⟨taken, ht, horder⟩ := h
  exact ⟨taken, ht, horder.sublist (hs.map Segment.text)⟩

theorem HasTaken.heard (h : HasTaken t segments s) (chunk : Text) :
    HasTaken (t ++ chunk) segments (s.heard chunk) := by
  obtain ⟨taken, rfl, horder⟩ := h
  rw [heard_eq]
  exact ⟨taken, List.append_assoc _ _ _, horder⟩

theorem HasTaken.draw (h : HasTaken t segments s) :
    HasTaken t (segments ++ s.draw.2) s.draw.1 := by
  obtain ⟨taken, rfl, horder⟩ := h
  obtain ⟨front, hfront, hpassages⟩ := Text.inOrder_split s.buffer.text
  have hdrawn : s.draw.2.Sublist (s.buffer.text.split.1.filterMap s.buffer.segment?) :=
    noteAll_sublist _ _
  have hnew : InOrder (s.draw.2.map Segment.text) front :=
    (hpassages.segments s.buffer).sublist (hdrawn.map Segment.text)
  rw [draw_eq]
  refine ⟨taken ++ front, ?_, ?_⟩
  · rw [List.append_assoc]
    exact congrArg (taken ++ ·) hfront
  · rw [List.map_append]
    exact horder.append hnew

theorem HasTaken.drain (h : HasTaken t segments s) :
    HasTaken t (segments ++ s.drain.2.toList) s.drain.1 := by
  obtain ⟨taken, rfl, horder⟩ := h
  have hnew : InOrder (s.drain.2.toList.map Segment.text) s.buffer.text := by
    cases hd : s.drain.2 with
    | none => trivial
    | some segment =>
      obtain ⟨left, right, hraw⟩ := infix_of_drain hd
      exact ⟨left, right, hraw.symm, trivial⟩
  rw [drain_eq]
  refine ⟨taken ++ s.buffer.text, (List.append_nil _).symm, ?_⟩
  rw [List.map_append]
  exact horder.append hnew

end Session

/-- The segments that a worker has drawn and about which the model has not answered. -/
def WorkerStage.pending : WorkerStage → List Segment
  | ready => []
  | waiting segment others => segment :: others

/-- The segment of a flush about which the model has not answered. -/
def FlushStage.pending : FlushStage → List Segment
  | waiting segment _ => [segment]
  | _ => []

namespace Session

variable {t : Text} {segments : List Segment} {s : Session}

theorem HasTaken.work {batch : List Segment} (h : HasTaken t (segments ++ batch) s) (id : Nat) :
    let turn := s.work id batch
    HasTaken t (segments ++ (turn.stage.map WorkerStage.pending).getD []) turn.session := by
  fun_induction Session.work id s batch with
  | case1 => exact h
  | case2 s segment others hc ha ih =>
    exact ih (h.sublist ((List.sublist_cons_self segment others).append_left segments))
  | case3 => exact h.sublist ((List.nil_sublist _).append_left segments)
  | case4 => exact h
  | case5 s ha hb hlt ih =>
    rw [List.append_nil] at h
    exact ih h.draw
  | case6 =>
    apply h.congr
    unfold release
    split <;> rfl

theorem HasTaken.resumeWork {others : List Segment} (h : HasTaken t (segments ++ others) s) {id : Nat}
    (ha : s.active = some id) (fails : Trigger → Bool) (i : Intent) :
    let turn := s.resumeWork fails id i others
    HasTaken t (segments ++ (turn.stage.map WorkerStage.pending).getD []) turn.session := by
  have hpassed : HasTaken t (segments ++ others) (s.pass i.triggers).1 := h.congr (by rw [pass_eq])
  rw [resumeWork_of_active ha]
  split
  · exact hpassed.work id
  · have hover : HasTaken t (segments ++ []) (s.pass i.triggers).1 :=
      hpassed.sublist ((List.nil_sublist others).append_left segments)
    apply hover.congr
    unfold release
    split <;> rfl

theorem HasTaken.finish (h : HasTaken t segments s) (id : Nat) :
    let turn := s.finish id
    HasTaken t (segments ++ (turn.stage.map FlushStage.pending).getD []) turn.session := by
  intro turn
  have hstage : ((turn.stage.map FlushStage.pending).getD []).Sublist s.drain.2.toList := by
    simp only [turn, Session.finish]
    split
    · exact List.nil_sublist _
    · rename_i segment hsegment
      rw [hsegment]
      split
      · exact .refl _
      · exact List.nil_sublist _
  rw [show turn.session = s.drain.1 from finish_session id s]
  exact h.drain.sublist (hstage.append_left segments)

end Session

namespace World

/-- The segments that were taken out of the buffer and about which the model has not answered. -/
def pending (w : World) : List Segment :=
  w.workers.flatMap (·.2.pending) ++ w.flushes.flatMap (·.2.pending)

/-! ## One of them at a time -/

/-- Without a reset, a flush that is left to itself is the only one. -/
theorem Undisturbed.flushes_eq {w : World} (h : Undisturbed w) (he : Exclusive w) {id : Nat}
    {stage : FlushStage} (hl : w.flushes.lookup id = some stage) : w.flushes = [(id, stage)] := by
  have hunderWay (e : Nat × FlushStage) (hm : e ∈ w.flushes) :
      e.2.isUnderWay w.session.response = true := by
    obtain ⟨k, place⟩ := e
    cases place with
    | waiting segment response => simp [FlushStage.isUnderWay, h.response_eq hm]
    | _ => rfl
  have hsame (e : Nat × FlushStage) (hm : e ∈ w.flushes) : e.1 = id :=
    he.unique e hm _ (mem_of_lookup hl) (hunderWay e hm) (hunderWay _ (mem_of_lookup hl))
  have hnodup := h.sound.flushes_nodup
  have hmem := mem_of_lookup hl
  generalize w.flushes = flushes at hsame hnodup hmem
  cases flushes with
  | nil => cases hmem
  | cons d rest =>
    cases rest with
    | nil => rw [List.mem_singleton.mp hmem]
    | cons e more =>
      rw [List.map_cons, List.map_cons, hsame d (by simp), hsame e (by simp)] at hnodup
      simp at hnodup

/-- While a worker is active, no flush waits for the model. -/
theorem Undisturbed.pending_flushes {w : World} (h : Undisturbed w) (he : Exclusive w) {id : Nat}
    (ha : w.session.active = some id) : w.flushes.flatMap (·.2.pending) = [] := by
  rw [List.flatMap_eq_nil_iff]
  rintro ⟨k, place⟩ hm
  cases place with
  | waiting segment response =>
    have hnone := he.idle k segment (h.response_eq hm ▸ hm)
    rw [ha] at hnone
    cases hnone
  | _ => rfl

theorem Undisturbed.pending_worker {w : World} (h : Undisturbed w) (he : Exclusive w) {id : Nat}
    {stage : WorkerStage} (hl : w.workers.lookup id = some stage) : w.pending = stage.pending := by
  obtain ⟨hworkers, ha⟩ := h.workers_eq hl
  unfold pending
  rw [h.pending_flushes he ha, hworkers]
  simp

theorem Undisturbed.pending_afterWorker {w : World} (h : Undisturbed w) (he : Exclusive w) {id : Nat}
    {stage : WorkerStage} (hl : w.workers.lookup id = some stage) (t : Session.Turn WorkerStage) :
    (w.afterWorker id t).1.pending = (t.stage.map WorkerStage.pending).getD [] := by
  obtain ⟨hworkers, ha⟩ := h.workers_eq hl
  unfold pending afterWorker
  simp only
  rw [h.pending_flushes he ha, hworkers, put_singleton]
  cases t.stage <;> simp

/-- When no worker is active, what is pending is the flush's. -/
theorem Undisturbed.pending_flush {w : World} (h : Undisturbed w) (he : Exclusive w) {id : Nat}
    {stage : FlushStage} (hl : w.flushes.lookup id = some stage) (hnone : w.session.active = none) :
    w.pending = stage.pending := by
  unfold pending
  rw [h.workers_eq_nil hnone, h.flushes_eq he hl]
  simp

theorem Undisturbed.pending_afterFlush {w : World} (h : Undisturbed w) (he : Exclusive w) {id : Nat}
    {stage : FlushStage} (hl : w.flushes.lookup id = some stage) (hnone : w.session.active = none)
    (t : Session.Turn FlushStage) :
    (w.afterFlush id t).1.pending = (t.stage.map FlushStage.pending).getD [] := by
  unfold pending afterFlush
  simp only
  rw [h.workers_eq_nil hnone, h.flushes_eq he hl, put_singleton]
  cases t.stage <;> simp

/-! ## Answers and what they are about -/

/-- The segment about which the move brings the answer, if the model was asked. -/
def answered? (w : World) : Move → Option Segment
  | .workerAnswer id _ =>
    match w.workers.lookup id with
    | some (.waiting segment _) => some segment
    | _ => none
  | .flushAnswer id _ =>
    match w.flushes.lookup id with
    | some (.waiting segment _) => some segment
    | _ => none
  | _ => none

/-- The segments about which the model answers in a run, each with the cues that the receiver takes
on that answer. -/
def replies (fails : Trigger → Bool) (w : World) : List Move → List (Segment × List Trigger)
  | [] => []
  | m :: rest =>
    let (after, events) := w.step fails m
    ((w.answered? m).map (·, cuesOf events)).toList ++ after.replies fails rest

theorem answered?_eq_some {w : World} {m : Move} {segment : Segment}
    (h : w.answered? m = some segment) :
    (∃ id others a, m = .workerAnswer id a ∧
        w.workers.lookup id = some (.waiting segment others)) ∨
      ∃ id response a, m = .flushAnswer id a ∧
        w.flushes.lookup id = some (.waiting segment response) := by
  unfold answered? at h
  split at h
  · rename_i id a
    split at h
    · rename_i found others hl
      cases h
      exact .inl ⟨id, others, a, rfl, hl⟩
    · cases h
  · rename_i id a
    split at h
    · rename_i found response hl
      cases h
      exact .inr ⟨id, response, a, rfl, hl⟩
    · cases h
  · cases h

/-- Without an answer, the receiver takes no cue that the model named. -/
theorem cuesOf_step_of_not_answered {w : World} {m : Move} (h : w.answered? m = none)
    (fails : Trigger → Bool) : cuesOf (w.step fails m).2 = [] := by
  have hs := step_spec fails w m
  generalize w.step fails m = r at hs ⊢
  cases hs with
  | feed chunk canWork => exact cuesOf_feed fails w chunk canWork
  | workerTurn hl => exact Session.cuesOf_work _ _ _
  | flushTurn hl hstage => exact Session.cuesOf_startFlush _ _ _
  | workerAnswer a hl => simp [answered?, hl] at h
  | flushAnswer a hl => simp [answered?, hl] at h
  | _ => rfl

theorem cuesOf_run (fails : Trigger → Bool) (w : World) (ms : List Move) :
    cuesOf (w.run fails ms).2 = (w.replies fails ms).flatMap Prod.snd := by
  induction ms generalizing w with
  | nil => rfl
  | cons m rest ih =>
    simp only [World.run, replies, cuesOf_append, List.flatMap_append, ih]
    cases h : w.answered? m with
    | none =>
      rw [cuesOf_step_of_not_answered h]
      rfl
    | some segment => simp

/-! ## The order is kept -/

theorem hasTaken_feed (fails : Trigger → Bool) {w : World} {t : Text} {replied : List Segment}
    (ht : w.session.HasTaken t (replied ++ w.pending)) (chunk : Text) (canWork : Bool) :
    let v := (w.feed fails chunk canWork).1
    v.session.HasTaken (t ++ chunk) (replied ++ v.pending) := by
  intro v
  simp only [v]
  rcases feed_cases fails w chunk canWork with ⟨rfl, hfed⟩ | ⟨hfed, -⟩ | ⟨hfed, -⟩
  · rw [hfed, List.append_nil]
    exact ht
  · rw [hfed]
    exact ht.heard chunk
  · have hpending : pending { w with
        session := (w.session.heard chunk).hired
        workers := w.workers ++ [(w.session.nextWorker, .ready)] } = w.pending := by
      simp [pending, WorkerStage.pending]
    rw [hfed, hpending]
    exact (ht.heard chunk).congr rfl

theorem Undisturbed.hasTaken_answer {w : World} (h : Undisturbed w) (he : Exclusive w)
    (fails : Trigger → Bool) {t : Text} {replied : List Segment}
    (ht : w.session.HasTaken t (replied ++ w.pending)) {m : Move} {segment : Segment}
    (hm : w.answered? m = some segment) :
    let v := (w.step fails m).1
    v.session.HasTaken t (replied ++ [segment] ++ v.pending) := by
  intro v
  rcases answered?_eq_some hm with ⟨id, others, a, rfl, hl⟩ | ⟨id, response, a, rfl, hl⟩
  · have hactive := (h.workers_eq hl).2
    have hv : v = (w.afterWorker id ((w.session.resumeWork fails id (Classifier.settled a)
        others).after [.answered (.worker id) a])).1 := by
      simp only [v, World.step, hl]
    rw [h.pending_worker he hl, WorkerStage.pending, List.append_cons] at ht
    rw [hv, h.pending_afterWorker he hl]
    exact ht.resumeWork hactive fails (Classifier.settled a)
  · have hresponse := h.response_eq (mem_of_lookup hl)
    subst hresponse
    have hnone := he.idle id segment (mem_of_lookup hl)
    obtain ⟨hstage, hsession⟩ :=
      Session.resumeFlush_eq fails w.session id (Classifier.settled a) w.session.response
    have hv : v = (w.afterFlush id ((w.session.resumeFlush fails id (Classifier.settled a)
        w.session.response).after [.answered (.flush id) a])).1 := by
      simp only [v, World.step, hl]
    rw [h.pending_flush he hl hnone, FlushStage.pending] at ht
    rw [hv, h.pending_afterFlush he hl hnone]
    simp only [Session.Turn.after, hstage, afterFlush, Option.map_none, Option.getD_none,
      List.append_nil]
    apply ht.congr
    rw [hsession]

theorem Undisturbed.hasTaken_flushTurn {w : World} (h : Undisturbed w) (he : Exclusive w)
    {t : Text} {replied : List Segment} (ht : w.session.HasTaken t (replied ++ w.pending)) {id : Nat}
    {stage : FlushStage} (hl : w.flushes.lookup id = some stage)
    (hstage : stage = .ready ∨ ∃ worker, stage = .joining worker ∧ w.lives worker = false) :
    let v := (w.afterFlush id (w.session.startFlush w.lives id)).1
    v.session.HasTaken t (replied ++ v.pending) := by
  intro v
  have hidle : stage.pending = [] := by
    rcases hstage with rfl | ⟨worker, rfl, -⟩ <;> rfl
  rcases Session.startFlush_cases w.lives id w.session with ⟨worker, -, -, hstart⟩ |
    ⟨hdead, hstart⟩
  · have hpending : v.pending = w.pending := by
      simp only [v, hstart, afterFlush, pending]
      rw [h.flushes_eq he hl, put_singleton, List.flatMap_singleton, hidle]
      rfl
    rw [hpending]
    apply ht.congr
    simp only [v, hstart, afterFlush]
  · have hnone := he.idle_of_flushTurn h.sound hl hstage hdead
    rw [h.pending_flush he hl hnone, hidle, List.append_nil] at ht
    have htaken : Session.HasTaken t replied { w.session with awaited := none } := ht.congr rfl
    simp only [v]
    rw [h.pending_afterFlush he hl hnone, hstart]
    exact htaken.finish id

theorem Undisturbed.hasTaken_step {w : World} (h : Undisturbed w) (he : Exclusive w)
    (fails : Trigger → Bool) {t : Text} {replied : List Segment}
    (ht : w.session.HasTaken t (replied ++ w.pending)) {m : Move} (hm : m.isReset = false) :
    let v := (w.step fails m).1
    v.session.HasTaken (t ++ m.told) (replied ++ (w.answered? m).toList ++ v.pending) := by
  intro v
  cases hanswer : w.answered? m with
  | some segment =>
    have hnone : m.told = [] := by
      rcases answered?_eq_some hanswer with ⟨id, others, a, rfl, -⟩ | ⟨id, response, a, rfl, -⟩ <;>
        rfl
    rw [hnone, List.append_nil]
    exact h.hasTaken_answer he fails ht hanswer
  | none =>
    rw [Option.toList_none, List.append_nil]
    have hs := step_spec fails w m
    simp only [v]
    generalize w.step fails m = r at hs ⊢
    cases hs with
    | still m htask =>
      rw [told_of_task htask, List.append_nil]
      exact ht
    | feed chunk canWork => exact hasTaken_feed fails ht chunk canWork
    | flush =>
      simpa [Move.told, pending, FlushStage.pending] using ht
    | workerTurn hl =>
      rw [h.pending_worker he hl] at ht
      simp only [Move.told, List.append_nil]
      rw [h.pending_afterWorker he hl]
      exact ht.work _
    | workerAnswer a hl => simp [answered?, hl] at hanswer
    | flushTurn hl hstage =>
      simp only [Move.told, List.append_nil]
      exact h.hasTaken_flushTurn he ht hl hstage
    | flushAnswer a hl => simp [answered?, hl] at hanswer
    | reset => cases hm
    | fullReset => cases hm
    | playback c length =>
      simp only [Move.told, List.append_nil]
      exact ht.congr rfl
    | setClock time =>
      simp only [Move.told, List.append_nil]
      exact ht.congr rfl

/-- As long as each flush is left to itself, the segments about which the model has answered stand in
order in the text that was told. -/
theorem Undisturbed.hasTaken_run {w : World} (h : Undisturbed w) (he : Exclusive w)
    (fails : Trigger → Bool) {t : Text} {replied : List Segment}
    (ht : w.session.HasTaken t (replied ++ w.pending)) {ms : List Move}
    (hms : ∀ m ∈ ms, m.isReset = false) (horderly : w.Orderly fails ms) :
    let v := (w.run fails ms).1
    v.session.HasTaken (t ++ told ms)
      (replied ++ (w.replies fails ms).map Prod.fst ++ v.pending) := by
  induction ms generalizing w t replied with
  | nil =>
    simp only [World.run, replies, List.map_nil, told_nil, List.append_nil]
    exact ht
  | cons m rest ih =>
    obtain ⟨hm, hrest⟩ := List.forall_mem_cons.mp hms
    obtain ⟨hadmits, hlater⟩ := horderly
    have hnext := ih (h.step fails hm) (he.step h.sound hadmits fails)
      (h.hasTaken_step he fails ht hm) hrest hlater
    have hreplied : ((w.replies fails (m :: rest)).map Prod.fst) =
        (w.answered? m).toList ++ ((w.step fails m).1.replies fails rest).map Prod.fst := by
      simp only [replies, List.map_append]
      cases w.answered? m <;> rfl
    rw [told_cons, hreplied, ← List.append_assoc, ← List.append_assoc]
    exact hnext

theorem inOrder_replies (fails : Trigger → Bool) (config : CueConfig) (clock : Millis)
    {ms : List Move} (hms : ∀ m ∈ ms, m.isReset = false)
    (horderly : (new config clock).Orderly fails ms) :
    InOrder (((new config clock).replies fails ms).map (·.1.text)) (told ms) := by
  have hstart : (new config clock).session.HasTaken [] ([] ++ (new config clock).pending) :=
    ⟨[], rfl, trivial⟩
  obtain ⟨taken, htold, horder⟩ := (undisturbed_new config clock).hasTaken_run
    (exclusive_new config clock) fails hstart hms horderly
  rw [List.nil_append] at htold horder
  rw [List.map_append] at horder
  have hreplied := horder.sublist (List.sublist_append_left _ _)
  rw [List.map_map] at hreplied
  have hrest : InOrder [] ((new config clock).run fails ms).1.session.buffer.text := trivial
  have hall := hreplied.append hrest
  rw [List.append_nil] at hall
  rw [htold]
  exact hall

/-! ## Waiting for the worker -/

/-- Turns are taken as they are here, from one wait to the next: a flush that finds no worker to wait
for drains the buffer in the same turn, and nothing is fed in between. Then the buffer is drained by a
flush whose turn has come, and while a worker is active exactly if another flush waits for that worker.
If no other flush is under way from the call of a flush to its end, then no worker is active and no
call waits when it drains the buffer, it leaves no call but its own, and whatever the model is asked
afterwards was told afterwards. Without a reset every answer is acted out when it arrives. And if
moreover each flush is left to itself and nothing is fed while it waits for the model, the answers
come, and the cues with them, in the order in which their segments stand in the text. -/
theorem a_flush_left_to_itself_waits_for_the_worker (config : CueConfig) (clock : Millis) :
    let start := new config clock
    (∀ (fails : Trigger → Bool) (before : List Move) (m : Move) (id : Nat),
      let w := (start.run fails before).1
      .drained id ∈ (w.step fails m).2 ↔
        m = .flushTurn id ∧ FlushDue w id ∧
          ∀ worker, w.session.active = some worker →
            ∃ other, other ≠ id ∧ (other, .joining worker) ∈ w.flushes) ∧
      (∀ (fails : Trigger → Bool) (before after : List Move),
        let w := (start.run fails before).1
        (∀ m ∈ before, m.isReset = false) → (∀ m ∈ after, m ≠ .flush ∧ m.isReset = false) →
        w.flushes = [] → (w.run fails (.flush :: after)).1.flushes = [] →
          ∃ mid later, after = mid ++ .flushTurn w.nextFlush :: later ∧
            let due := (w.run fails (.flush :: mid)).1
            let drained := due.step fails (.flushTurn w.nextFlush)
            .drained w.nextFlush ∈ drained.2 ∧
              due.session.active = none ∧ due.outstanding = [] ∧
              drained.1.session.buffer.text = [] ∧
              (∀ a ∈ drained.1.outstanding, a = .flush w.nextFlush) ∧
              ∀ call ∈ callsOf (drained.1.run fails later).2, ∃ segment : Segment,
                Classifier.call? config segment.text = some call ∧ segment.text <:+: told later) ∧
      ∀ before : List Move, (∀ m ∈ before, m.isReset = false) →
        let w := (start.run unfailing before).1
        (∀ m, cuesOf (w.step unfailing m).2 =
          (answersOf (w.step unfailing m).2).flatMap
            fun a => (w.session.pass (Classifier.settled a).triggers).2) ∧
          (start.Orderly unfailing before →
            cuesOf (start.run unfailing before).2 =
                (start.replies unfailing before).flatMap Prod.snd ∧
              InOrder ((start.replies unfailing before).map (·.1.text)) (told before)) := by
  intro start
  have hstart : Undisturbed start := undisturbed_new config clock
  refine ⟨?_, ?_, ?_⟩
  · intro fails before m id
    exact (watched_run fails config clock before).drained_iff (sound_run fails config clock before)
      fails m id
  · intro fails before after w hbefore hafter hnone hover
    obtain ⟨mid, later, hsplit, hdrained, hactive, hcalls, hempty, hown, hlater⟩ :=
      (hstart.run fails hbefore).flush_alone hnone fails hafter hover
    refine ⟨mid, later, hsplit, hdrained, hactive, hcalls, hempty, hown, ?_⟩
    intro call hcall
    have hconfig : ((w.run fails (.flush :: mid)).1.step fails
        (.flushTurn w.nextFlush)).1.session.config = config := by
      rw [(grows_step fails _ _).config, config_run, config_run]
      rfl
    rw [callsOf_run, hconfig] at hcall
    obtain ⟨segment, hsegment, hask⟩ := List.mem_filterMap.mp hcall
    exact ⟨segment, hask, hlater segment hsegment⟩
  · intro before hbefore w
    have hw : Undisturbed w := hstart.run unfailing hbefore
    refine ⟨?_, ?_⟩
    · exact cuesOf_step
        (fun id segment others hm => (hw.workers_eq (lookup_of_mem hw.sound.workers_nodup hm)).2)
        (fun id segment response hm => hw.response_eq hm)
    · intro horderly
      exact ⟨cuesOf_run unfailing start before,
        inOrder_replies unfailing config clock hbefore horderly⟩

/-- While the first flush waits for the worker, a second one drains the buffer. Left to itself, the
first one drains it when the worker is over, and the cues come in order. -/
theorem a_second_flush_does_not_wait :
    let start := new { gestures := [], expressions := [] } 0
    let fed : List Move := [.feed "It rains here. It snows over there".toList true, .workerTurn 0]
    let after : List Move :=
      [.flushTurn 0, .workerAnswer 0 (.text "\x7b\"gesture\":\"nod\"\x7d".toList), .flushTurn 0,
        .flushAnswer 0 (.text "\x7b\"expression\":\"smile\"\x7d".toList)]
    let crowded := (start.run unfailing (fed ++ [.flush, .flushTurn 0, .flush])).1
    let w := (start.run unfailing fed).1
    (crowded.session.active = some 0 ∧ .drained 1 ∈ (crowded.step unfailing (.flushTurn 1)).2) ∧
      (∃ mid later, after = mid ++ .flushTurn 0 :: later ∧
        .drained 0 ∈ ((w.run unfailing (.flush :: mid)).1.step unfailing (.flushTurn 0)).2 ∧
        (w.run unfailing (.flush :: mid)).1.session.active = none) ∧
      cuesOf (start.run unfailing (fed ++ .flush :: after)).2 =
        [.gesture .nod, .expression .smile] ∧
      InOrder ["It rains here.".toList, "It snows over there".toList]
        "It rains here. It snows over there".toList := by
  intro start fed after crowded w
  obtain ⟨hdrains, halone, hruns⟩ :=
    a_flush_left_to_itself_waits_for_the_worker { gestures := [], expressions := [] } 0
  have hreplies : start.replies unfailing (fed ++ .flush :: after) =
      [(⟨"It rains here.".toList, "It rains here.".toList⟩, [.gesture .nod]),
        (⟨"It snows over there".toList, "It snows over there".toList⟩, [.expression .smile])] := by
    decide +kernel
  obtain ⟨hcues, horder⟩ :=
    (hruns (fed ++ .flush :: after) (by decide)).2 (by decide +kernel)
  refine ⟨⟨by decide +kernel, ?_⟩, ?_, ?_, ?_⟩
  · have hjoined : crowded.session.active = some 0 ∧ (0, .joining 0) ∈ crowded.flushes := by
      decide +kernel
    refine (hdrains unfailing _ _ 1).mpr ⟨rfl, ⟨.ready, by decide +kernel, .inl rfl⟩, ?_⟩
    intro worker hactive
    cases hjoined.1.symm.trans hactive
    exact ⟨0, by decide, hjoined.2⟩
  · obtain ⟨mid, later, hsplit, hdrained, hactive, -⟩ :=
      halone unfailing fed after (by decide) (by decide) rfl (by decide +kernel)
    exact ⟨mid, later, hsplit, hdrained, hactive⟩
  · rw [hcues, hreplies]
    rfl
  · rw [hreplies] at horder
    exact horder

end World

end CueStream
