-- What becomes of old text when a new response begins. The tasks of the old
-- response may still hold some of it, but nobody gets to see it: their text
-- makes no difference, and all that is handed over was told since.
import CueStream.Proofs.Segment.Passage
import CueStream.Proofs.Session.Passing
import CueStream.Proofs.Session.Reset

namespace CueStream

/-! ## Wiping out what tasks hold -/

/-- The same stage, with no text in it. -/
def WorkerStage.wiped : WorkerStage → WorkerStage
  | ready => ready
  | waiting _ _ => waiting ⟨[], []⟩ []

/-- The same stage, with no text in it. -/
def FlushStage.wiped : FlushStage → FlushStage
  | ready => ready
  | joining worker => joining worker
  | waiting _ response => waiting ⟨[], []⟩ response

/-- The stage without its text, if it waits on behalf of a response up to number `r`. -/
def FlushStage.wipedUpTo (r : Nat) (stage : FlushStage) : FlushStage :=
  match stage with
  | waiting _ response => if response ≤ r then stage.wiped else stage
  | _ => stage

namespace World

/-- The same world, with no text in any task. -/
def wiped (w : World) : World :=
  { w with
    workers := w.workers.map fun e => (e.1, e.2.wiped)
    flushes := w.flushes.map fun e => (e.1, e.2.wiped) }

/-- The same world, with no text in the workers under number `n` and in the flushes of responses up
to number `r`. -/
def wipedUpTo (n r : Nat) (w : World) : World :=
  { w with
    workers := w.workers.map fun e => (e.1, if e.1 < n then e.2.wiped else e.2)
    flushes := w.flushes.map fun e => (e.1, e.2.wipedUpTo r) }

theorem lookup_workers_wipedUpTo (n r : Nat) (w : World) (id : Nat) :
    (w.wipedUpTo n r).workers.lookup id =
      (w.workers.lookup id).map fun stage => if id < n then stage.wiped else stage :=
  lookup_map (fun id stage => if id < n then WorkerStage.wiped stage else stage) id w.workers

theorem lookup_flushes_wipedUpTo (n r : Nat) (w : World) (id : Nat) :
    (w.wipedUpTo n r).flushes.lookup id = (w.flushes.lookup id).map (FlushStage.wipedUpTo r) :=
  lookup_map (fun _ => FlushStage.wipedUpTo r) id w.flushes

theorem lives_wipedUpTo (n r : Nat) (w : World) : (w.wipedUpTo n r).lives = w.lives := by
  funext id
  unfold lives
  rw [lookup_workers_wipedUpTo, Option.isSome_map]

theorem afterWorker_wipedUpTo (n r : Nat) (w : World) (id : Nat) {t : Session.Turn WorkerStage}
    (h : id < n → t.stage = none) :
    (w.wipedUpTo n r).afterWorker id t =
      ((w.afterWorker id t).1.wipedUpTo n r, (w.afterWorker id t).2) := by
  have hstage : t.stage.map (fun stage => if id < n then stage.wiped else stage) = t.stage := by
    by_cases hid : id < n
    · rw [h hid]
      rfl
    · simp [hid]
  have hput := put_map (fun id stage => if id < n then WorkerStage.wiped stage else stage) id t.stage
    w.workers
  rw [hstage] at hput
  unfold afterWorker wipedUpTo
  rw [hput]

theorem afterFlush_wipedUpTo (n r : Nat) (w : World) (id : Nat) {t : Session.Turn FlushStage}
    (h : t.stage.map (FlushStage.wipedUpTo r) = t.stage) :
    (w.wipedUpTo n r).afterFlush id t =
      ((w.afterFlush id t).1.wipedUpTo n r, (w.afterFlush id t).2) := by
  have hput := put_map (fun _ => FlushStage.wipedUpTo r) id t.stage w.flushes
  rw [h] at hput
  unfold afterFlush wipedUpTo
  rw [hput]

theorem startFlush_wipedUpTo {r : Nat} {s : Session} (h : r < s.response) (lives : Nat → Bool)
    (id : Nat) :
    (s.startFlush lives id).stage.map (FlushStage.wipedUpTo r) = (s.startFlush lives id).stage := by
  rcases Session.startFlush_cases lives id s with ⟨worker, -, -, he⟩ | ⟨-, he⟩
  · rw [he]
    rfl
  · rw [he]
    rcases Session.finish_stage id { s with awaited := none } with hn | ⟨segment, hw⟩
    · rw [hn]
      rfl
    · rw [hw]
      simp only [Option.map_some, FlushStage.wipedUpTo]
      rw [if_neg (Nat.not_le_of_lt h)]

/-- What revoked workers and flushes of past responses hold makes no difference to any move. -/
theorem Past.step_wiped (fails : Trigger → Bool) {n r : Nat} {w : World} (h : Past n r w)
    (m : Move) :
    (w.wipedUpTo n r).step fails m =
      ((w.step fails m).1.wipedUpTo n r, (w.step fails m).2) := by
  cases m with
  | feed chunk canWork =>
    simp only [World.step, World.feed, wipedUpTo, List.map_append, Prod.mk.injEq, World.mk.injEq,
      true_and, and_true, List.append_cancel_left_eq]
    cases (w.session.feed chunk canWork).worker with
    | none => rfl
    | some id => simp [WorkerStage.wiped]
  | flush => simp [World.step, wipedUpTo, FlushStage.wipedUpTo]
  | workerTurn id =>
    simp only [World.step, lookup_workers_wipedUpTo]
    cases hl : w.workers.lookup id with
    | none => rfl
    | some stage =>
      cases stage with
      | ready =>
        simp only [Option.map_some, WorkerStage.wiped, ite_self]
        apply afterWorker_wipedUpTo
        intro hid
        exact congrArg Session.Turn.stage (Session.work_of_revoked (h.not_active hid))
      | waiting segment others =>
        by_cases hid : id < n <;> simp [hid, WorkerStage.wiped]
  | workerAnswer id a =>
    simp only [World.step, lookup_workers_wipedUpTo]
    cases hl : w.workers.lookup id with
    | none => rfl
    | some stage =>
      cases stage with
      | ready => by_cases hid : id < n <;> simp [hid, WorkerStage.wiped]
      | waiting segment others =>
        by_cases hid : id < n
        · -- a revoked worker looks at nothing that was wiped
          have hrevoked (i : Intent) (others : List Segment) :
              w.session.resumeWork fails id i others = ⟨w.session, none, [.ended (.worker id)]⟩ :=
            Session.resumeWork_of_revoked (h.not_active hid) i others
          have hs : (w.wipedUpTo n r).session = w.session := rfl
          simp only [hid, if_true, Option.map_some, WorkerStage.wiped, hs, hrevoked]
          exact afterWorker_wipedUpTo n r w id fun _ => rfl
        · simp only [hid, if_false, Option.map_some]
          exact afterWorker_wipedUpTo n r w id fun h => absurd h hid
  | flushTurn id =>
    have hlives := lives_wipedUpTo n r w
    have hs : (w.wipedUpTo n r).session = w.session := rfl
    simp only [World.step, lookup_flushes_wipedUpTo, hlives, hs]
    cases hl : w.flushes.lookup id with
    | none => rfl
    | some stage =>
      cases stage with
      | ready =>
        exact afterFlush_wipedUpTo n r w id (startFlush_wipedUpTo h.response _ _)
      | joining worker =>
        simp only [Option.map_some, FlushStage.wipedUpTo]
        split
        · rfl
        · exact afterFlush_wipedUpTo n r w id (startFlush_wipedUpTo h.response _ _)
      | waiting segment response =>
        by_cases hr : response ≤ r <;> simp [FlushStage.wipedUpTo, FlushStage.wiped, hr]
  | flushAnswer id a =>
    have hs : (w.wipedUpTo n r).session = w.session := rfl
    simp only [World.step, lookup_flushes_wipedUpTo, hs]
    cases hl : w.flushes.lookup id with
    | none => rfl
    | some stage =>
      cases stage with
      | ready => rfl
      | joining worker => rfl
      | waiting segment response =>
        have hstage : ((w.session.resumeFlush fails id (Classifier.settled a) response).after
            [.answered (.flush id) a]).stage = none :=
          (Session.resumeFlush_eq fails w.session id (Classifier.settled a) response).1
        by_cases hr : response ≤ r <;>
          · simp only [Option.map_some, FlushStage.wipedUpTo, FlushStage.wiped, hr, if_true,
              if_false]
            exact afterFlush_wipedUpTo n r w id (by rw [hstage]; rfl)
  | reset => rfl
  | fullReset => rfl
  | playback c length => rfl
  | setClock time => rfl

theorem Past.play_wiped {n r : Nat} {w : World} (h : Past n r w) (beats : List (Beat Move)) :
    (w.wipedUpTo n r).play beats = ((w.play beats).1.wipedUpTo n r, (w.play beats).2) := by
  induction beats generalizing w with
  | nil => rfl
  | cons b rest ih =>
    simp only [World.play]
    rw [h.step_wiped b.fails b.act]
    simp only
    rw [ih (h.step b.fails b.act)]

end World

/-! ## Where segments come from -/

namespace Session

theorem noteAll_sublist (s : Session) (segments : List Segment) :
    (s.noteAll segments).2.Sublist segments := by
  induction segments generalizing s with
  | nil => exact .slnil
  | cons segment rest ih =>
    simp only [noteAll]
    split
    · exact .cons_cons segment (ih _)
    · exact .cons segment (ih _)

/-- What a worker's turn leaves and hands over stands in the text `t`. -/
structure Within (t : Text) (turn : Turn WorkerStage) : Prop where
  buffer : turn.session.buffer.text <:+ t
  pending : ∀ segment others, turn.stage = some (.waiting segment others) →
    ∀ x ∈ others, x.text <:+: t
  segments : ∀ x ∈ segmentsOf turn.events, x.text <:+: t

theorem within_of_ended {t : Text} {s : Session} (h : s.buffer.text <:+ t) {turn : Turn WorkerStage}
    (hbuffer : turn.session.buffer = s.buffer) (hstage : turn.stage = none)
    (hsegments : ∀ x ∈ segmentsOf turn.events, x.text <:+: t) : Within t turn := by
  refine ⟨hbuffer ▸ h, ?_, hsegments⟩
  intro segment others hw
  rw [hstage] at hw
  cases hw

theorem Within.after {t : Text} {turn : Turn WorkerStage} (h : Within t turn) {events : List Event}
    (hevents : ∀ x ∈ segmentsOf events, x.text <:+: t) : Within t (turn.after events) := by
  refine ⟨h.buffer, h.pending, ?_⟩
  intro x hx
  unfold Turn.after at hx
  rw [segmentsOf_append] at hx
  rcases List.mem_append.mp hx with hx | hx
  · exact hevents x hx
  · exact h.segments x hx

theorem within_work {t : Text} {id : Nat} {s : Session} {batch : List Segment}
    (hbuffer : s.buffer.text <:+ t) (hbatch : ∀ x ∈ batch, x.text <:+: t) :
    Within t (s.work id batch) := by
  fun_induction work id s batch with
  | case1 s segment others call hc =>
    refine ⟨hbuffer, ?_, ?_⟩
    · intro segment' others' hw
      cases hw
      exact fun x hx => hbatch x (List.mem_cons_of_mem segment hx)
    · intro x hx
      rw [List.mem_singleton.mp hx]
      exact hbatch segment List.mem_cons_self
  | case2 s segment others hc ha ih =>
    apply (ih hbuffer fun x hx => hbatch x (List.mem_cons_of_mem segment hx)).after
    intro x hx
    rw [List.mem_singleton.mp hx]
    exact hbatch segment List.mem_cons_self
  | case3 s segment others hc ha =>
    apply within_of_ended hbuffer rfl rfl
    intro x hx
    rw [List.mem_singleton.mp hx]
    exact hbatch segment List.mem_cons_self
  | case4 s ha => exact within_of_ended hbuffer rfl rfl (List.forall_mem_nil _)
  | case5 s ha hb hlt ih =>
    apply ih
    · rw [draw_eq]
      exact (Text.split_infix s.buffer.text).1.trans hbuffer
    · intro x hx
      have hx : x ∈ s.buffer.completed.1 := (noteAll_sublist _ _).subset hx
      exact (Buffer.infix_of_mem_completed hx).trans hbuffer.isInfix
  | case6 s ha hb =>
    apply within_of_ended hbuffer _ rfl (List.forall_mem_nil _)
    unfold release
    split <;> rfl

theorem within_resumeWork {t : Text} {id : Nat} {s : Session} {others : List Segment}
    (hbuffer : s.buffer.text <:+ t) (hothers : ∀ x ∈ others, x.text <:+: t)
    (fails : Trigger → Bool) (i : Intent) : Within t (s.resumeWork fails id i others) := by
  have hpass : (s.pass i.triggers).1.buffer = s.buffer := by rw [pass_eq]
  have hnone : ∀ x ∈ segmentsOf (s.emit fails (.worker id) i.triggers).2.1, x.text <:+: t := by
    rw [segmentsOf_emit]
    exact List.forall_mem_nil _
  by_cases h : s.active = some id
  · rw [resumeWork_of_active h]
    split
    · exact (within_work (hpass ▸ hbuffer) hothers).after hnone
    · apply within_of_ended hbuffer _ rfl
      · rw [segmentsOf_append, segmentsOf_emit]
        exact List.forall_mem_nil _
      · rw [← hpass]
        unfold release
        split <;> rfl
  · rw [resumeWork_of_revoked h]
    exact within_of_ended hbuffer rfl rfl (List.forall_mem_nil _)

theorem infix_of_drain {s : Session} {segment : Segment} (h : s.drain.2 = some segment) :
    segment.text <:+: s.buffer.text := by
  cases hsegment : s.buffer.segment? s.buffer.text with
  | none =>
    rw [drain_of_none hsegment] at h
    cases h
  | some found =>
    rw [drain_of_some hsegment] at h
    simp only at h
    split at h
    · cases h
      exact Buffer.infix_of_segment? hsegment
    · cases h

theorem within_finish {t : Text} {s : Session} (hbuffer : s.buffer.text <:+ t) (id : Nat) :
    (s.finish id).session.buffer.text = [] ∧
      ∀ x ∈ segmentsOf (s.finish id).events, x.text <:+: t := by
  refine ⟨by rw [finish_session, drain_eq]; rfl, ?_⟩
  intro x hx
  simp only [finish] at hx
  split at hx
  · cases hx
  · rename_i segment hsegment
    have hmem : x ∈ [segment] := by
      split at hx <;> exact hx
    rw [List.mem_singleton.mp hmem]
    exact (infix_of_drain hsegment).trans hbuffer.isInfix

end Session

namespace World

/-- What the session holds, and what the workers from number `n` on hold, stands in the text
`t`. -/
structure Recent (n : Nat) (t : Text) (w : World) : Prop where
  buffer : w.session.buffer.text <:+ t
  pending : ∀ id segment others, (id, .waiting segment others) ∈ w.workers → n ≤ id →
    ∀ x ∈ others, x.text <:+: t

theorem Recent.feed {n : Nat} {t : Text} {w : World} (h : Recent n t w) (fails : Trigger → Bool)
    (chunk : Text) (canWork : Bool) : Recent n (t ++ chunk) (w.feed fails chunk canWork).1 := by
  refine ⟨?_, ?_⟩
  · unfold World.feed
    dsimp only
    rw [Session.buffer_feed]
    obtain ⟨front, hfront⟩ := h.buffer
    refine ⟨front, ?_⟩
    rw [← hfront, List.append_assoc]
    rfl
  · intro id segment others hm hid x hx
    have hold : (id, .waiting segment others) ∈ w.workers := by
      rcases feed_cases fails w chunk canWork with ⟨-, hfed⟩ | ⟨hfed, -⟩ | ⟨hfed, -⟩
      · rwa [hfed] at hm
      · rwa [hfed] at hm
      · rw [hfed] at hm
        rcases List.mem_append.mp hm with hm | hm
        · exact hm
        · cases List.mem_singleton.mp hm
    exact (h.pending id segment others hold hid x hx).trans (List.prefix_append t chunk).isInfix

/-- A turn that stays within the text, or leaves no trace at all. -/
theorem Recent.afterWorker {n : Nat} {t : Text} {w : World} (h : Recent n t w) {id : Nat}
    {turn : Session.Turn WorkerStage}
    (hturn : n ≤ id → Session.Within t turn)
    (hrevoked : id < n →
      turn.session = w.session ∧ turn.stage = none ∧ segmentsOf turn.events = []) :
    Recent n t (w.afterWorker id turn).1 ∧
      ∀ x ∈ segmentsOf (w.afterWorker id turn).2, x.text <:+: t := by
  have hold {e : Nat × WorkerStage} (he : e ∈ put id turn.stage w.workers) :
      e ∈ w.workers ∨ ∃ stage, turn.stage = some stage ∧ e = (id, stage) := mem_put he
  by_cases hid : n ≤ id
  · have hwithin := hturn hid
    refine ⟨⟨hwithin.buffer, ?_⟩, hwithin.segments⟩
    intro k segment others hm hk
    rcases hold hm with hm | ⟨stage, hstage, he⟩
    · exact h.pending k segment others hm hk
    · cases he
      exact hwithin.pending segment others hstage
  · obtain ⟨hsession, hstage, hsegments⟩ := hrevoked (Nat.lt_of_not_le hid)
    refine ⟨⟨?_, ?_⟩, ?_⟩
    · show turn.session.buffer.text <:+ t
      rw [hsession]
      exact h.buffer
    · intro k segment others hm hk
      rcases hold hm with hm | ⟨stage, hs, -⟩
      · exact h.pending k segment others hm hk
      · rw [hstage] at hs
        cases hs
    · show ∀ x ∈ segmentsOf turn.events, x.text <:+: t
      rw [hsegments]
      exact List.forall_mem_nil _

/-- Nothing that was told before finds its way into a move, if the workers under number `n` are
revoked. -/
theorem Recent.step {n : Nat} {t : Text} {w : World} (h : Recent n t w)
    (hrevoked : ∀ id < n, w.session.active ≠ some id) (fails : Trigger → Bool) (m : Move) :
    Recent n (t ++ m.told) (w.step fails m).1 ∧
      ∀ x ∈ segmentsOf (w.step fails m).2, x.text <:+: t ++ m.told := by
  have hs := step_spec fails w m
  generalize w.step fails m = r at hs ⊢
  cases hs with
  | still m htask =>
    rw [told_of_task htask, List.append_nil]
    exact ⟨h, List.forall_mem_nil _⟩
  | feed chunk canWork =>
    refine ⟨h.feed fails chunk canWork, ?_⟩
    rw [segmentsOf_feed]
    exact List.forall_mem_nil _
  | @workerTurn id hl =>
    simp only [Move.told, List.append_nil]
    apply h.afterWorker
    · intro _
      exact Session.within_work h.buffer (List.forall_mem_nil _)
    · intro hid
      rw [Session.work_of_revoked (hrevoked id hid)]
      exact ⟨rfl, rfl, rfl⟩
  | @workerAnswer id segment others a hl =>
    simp only [Move.told, List.append_nil]
    apply h.afterWorker
    · intro hid
      have hothers := h.pending id segment others (mem_of_lookup hl) hid
      exact (Session.within_resumeWork h.buffer hothers fails _).after (List.forall_mem_nil _)
    · intro hid
      rw [Session.resumeWork_of_revoked (hrevoked id hid)]
      exact ⟨rfl, rfl, rfl⟩
  | @flushTurn id stage hl hstage =>
    simp only [Move.told, List.append_nil]
    rcases Session.startFlush_cases w.lives id w.session with ⟨worker, -, -, he⟩ | ⟨-, he⟩
    · rw [he]
      exact ⟨⟨h.buffer, h.pending⟩, List.forall_mem_nil _⟩
    · rw [he]
      obtain ⟨hempty, hsegments⟩ :=
        Session.within_finish (s := { w.session with awaited := none }) h.buffer id
      refine ⟨⟨?_, h.pending⟩, hsegments⟩
      show (Session.finish id { w.session with awaited := none }).session.buffer.text <:+ t
      rw [hempty]
      exact List.nil_suffix
  | @flushAnswer id segment response a hl =>
    simp only [Move.told, List.append_nil]
    obtain ⟨-, heq⟩ :=
      Session.resumeFlush_eq fails w.session id (Classifier.settled a) response
    obtain ⟨hsegments, -⟩ :=
      Session.segmentsOf_resumeFlush fails w.session id (Classifier.settled a) response
    unfold afterFlush Session.Turn.after
    simp only [segmentsOf_append, hsegments]
    rw [heq]
    exact ⟨⟨h.buffer, h.pending⟩, List.forall_mem_nil _⟩
  | reset =>
    simp only [Move.told, List.append_nil]
    exact ⟨⟨List.nil_suffix, h.pending⟩, List.forall_mem_nil _⟩
  | fullReset =>
    simp only [Move.told, List.append_nil]
    exact ⟨⟨List.nil_suffix, h.pending⟩, List.forall_mem_nil _⟩
  | flush =>
    simp only [Move.told, List.append_nil]
    exact ⟨⟨h.buffer, h.pending⟩, List.forall_mem_nil _⟩
  | playback =>
    simp only [Move.told, List.append_nil]
    exact ⟨⟨h.buffer, h.pending⟩, List.forall_mem_nil _⟩
  | setClock =>
    simp only [Move.told, List.append_nil]
    exact ⟨⟨h.buffer, h.pending⟩, List.forall_mem_nil _⟩

/-- Nor into a play, if they stay revoked. -/
theorem Recent.play_of_revoked {n : Nat} {t : Text} {w : World} (h : Recent n t w)
    (hn : n ≤ w.session.nextWorker) (hrevoked : ∀ id, w.session.active = some id → n ≤ id)
    (beats : List (Beat Move)) :
    Recent n (t ++ told (acts beats)) (w.play beats).1 ∧
      ∀ x ∈ segmentsOf (w.play beats).2, x.text <:+: t ++ told (acts beats) := by
  induction beats generalizing w t with
  | nil =>
    rw [show told (acts []) = [] from rfl, List.append_nil]
    exact ⟨h, List.forall_mem_nil _⟩
  | cons b rest ih =>
    have hgrows := grows_step b.fails w b.act
    have hnot : ∀ id < n, w.session.active ≠ some id := by
      intro id hid ha
      exact Nat.not_le_of_lt hid (hrevoked id ha)
    have hlater : ∀ id, (w.step b.fails b.act).1.session.active = some id → n ≤ id := by
      intro id ha
      rcases hgrows.active id ha with ha | ha
      · exact hrevoked id ha
      · exact Nat.le_trans hn ha
    obtain ⟨hnext, hfirst⟩ := h.step hnot b.fails b.act
    obtain ⟨hlast, hrest⟩ := ih hnext (Nat.le_trans hn hgrows.next) hlater
    rw [show told (acts (b :: rest)) = b.act.told ++ told (acts rest) from told_cons _ _,
      ← List.append_assoc]
    refine ⟨hlast, ?_⟩
    intro x hx
    simp only [World.play, segmentsOf_append] at hx
    rcases List.mem_append.mp hx with hx | hx
    · exact (hfirst x hx).trans (List.prefix_append _ _).isInfix
    · exact hrest x hx

theorem Recent.play {n r : Nat} {t : Text} {w : World} (h : Recent n t w) (hp : Past n r w)
    (beats : List (Beat Move)) :
    Recent n (t ++ told (acts beats)) (w.play beats).1 ∧
      ∀ x ∈ segmentsOf (w.play beats).2, x.text <:+: t ++ told (acts beats) :=
  h.play_of_revoked hp.next hp.active beats

/-! ## Old work leaves no trace -/

/-- With every worker revoked and the response of every waiting flush over, wiping spares nobody. -/
theorem wiped_eq {n r : Nat} {w : World} (hworkers : ∀ e ∈ w.workers, e.1 < n)
    (hflushes : ∀ id segment response, (id, .waiting segment response) ∈ w.flushes →
      response ≤ r) : w.wiped = w.wipedUpTo n r := by
  have hw : (w.workers.map fun e => (e.1, e.2.wiped)) =
      w.workers.map fun e => (e.1, if e.1 < n then e.2.wiped else e.2) := by
    apply List.map_congr_left
    intro e he
    rw [if_pos (hworkers e he)]
  have hf : (w.flushes.map fun e => (e.1, e.2.wiped)) =
      w.flushes.map fun e => (e.1, e.2.wipedUpTo r) := by
    apply List.map_congr_left
    rintro ⟨id, stage⟩ he
    cases stage with
    | ready => rfl
    | joining worker => rfl
    | waiting segment response =>
      simp only [FlushStage.wipedUpTo]
      rw [if_pos (hflushes id segment response he)]
  unfold wiped wipedUpTo
  rw [hw, hf]

/-- In every run, whatever the receiver does at which time, a reset of either kind puts an end to all
that is under way. The workers, and the flushes that wait for an answer, leave no trace in whatever
follows. The text that tasks hold makes no difference to the session or to anything that happens from
then on. And what is in the buffer, what is handed over and what the model is asked stands in the text
that is fed after the reset. -/
theorem old_work_is_inert (config : CueConfig) (clock : Millis) (before : List (Beat Move))
    (fails : Trigger → Bool) (m : Move) (hm : m.isReset = true) :
    let w := ((new config clock).play before).1
    let v := (w.step fails m).1
    (∀ id stage, (id, stage) ∈ w.workers → Inert v (.worker id)) ∧
      (∀ id segment response, (id, .waiting segment response) ∈ w.flushes →
        Inert v (.flush id)) ∧
      v.session.buffer.text = [] ∧ v.session.cursor = 0 ∧ v.session.seen = [] ∧
      v.session.active = none ∧ v.session.awaited = none ∧
      ∀ after,
        (v.wiped.play after).1.session = (v.play after).1.session ∧
          (v.wiped.play after).2 = (v.play after).2 ∧
          (v.play after).1.session.buffer.text <:+ told (acts after) ∧
          callsOf (v.play after).2 = questions config (segmentsOf (v.play after).2) ∧
          ∀ segment ∈ segmentsOf (v.play after).2, segment.text <:+: told (acts after) := by
  intro w v
  have hw : Sound w := sound_play config clock before
  have hv : Sound v := hw.step fails m
  have hp : Past w.session.nextWorker w.session.response v := past_reset fails w hm
  obtain ⟨gates, hstep⟩ := step_of_isReset fails w hm
  have heq : v = { w with session := { w.session.reset with gates := gates } } :=
    congrArg Prod.fst hstep
  have hconfig : v.session.config = config := by
    rw [heq]
    exact config_play (new config clock) before
  refine ⟨?_, ?_, ?_, ?_, ?_, ?_, ?_, ?_⟩
  · intro id stage he
    exact hp.inert_worker (hw.workers_lt _ he)
  · intro id segment response he
    exact (hw.spent_reset fails hm he).inert hv
  · rw [heq]
    rfl
  · rw [heq]
    rfl
  · rw [heq]
    rfl
  · rw [heq]
    rfl
  · rw [heq]
    rfl
  · intro after
    have hwiped : v.wiped = v.wipedUpTo w.session.nextWorker w.session.response := by
      apply wiped_eq
      · rw [heq]
        exact hw.workers_lt
      · rw [heq]
        exact hw.response_le
    have hrecent : Recent w.session.nextWorker [] v := by
      refine ⟨?_, ?_⟩
      · rw [heq]
        exact List.nil_suffix
      · intro id segment others hm hid
        rw [heq] at hm
        have := hw.workers_lt _ hm
        omega
    obtain ⟨hbuffer, hsegments⟩ := hrecent.play hp after
    rw [hwiped, hp.play_wiped after]
    refine ⟨rfl, rfl, hbuffer.buffer, ?_, hsegments⟩
    rw [callsOf_play, hconfig]

/-- A worker waits for the model when the reset comes. -/
theorem old_work_is_inert_waiting :
    let config : CueConfig := { gestures := [], expressions := [] }
    let before : List (Beat Move) :=
      [⟨.feed "It rains here. Go".toList true, unfailing⟩, ⟨.workerTurn 0, unfailing⟩]
    let w := ((new config 0).play before).1
    w.workers = [(0, .waiting ⟨"It rains here.".toList, "It rains here.".toList⟩ [])] ∧
      Inert (w.step unfailing .reset).1 (.worker 0) := by
  intro config before w
  have hw : w.workers = [(0, .waiting ⟨"It rains here.".toList, "It rains here.".toList⟩ [])] := by
    decide +kernel
  refine ⟨hw, ?_⟩
  apply (old_work_is_inert config 0 before unfailing .reset rfl).1 0
  change _ ∈ w.workers
  rw [hw]
  exact List.mem_singleton_self _

end World

end CueStream
