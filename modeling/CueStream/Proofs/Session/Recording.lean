-- What becomes of the keys that a session has noted. As long as no response
-- begins, each of them stands on exactly one segment: one that was handed over,
-- one in the hands of a task, or one that was lost when the receiver broke down
-- over the cues of an earlier segment and took the worker with it.
import CueStream.Proofs.Session.Holding

namespace CueStream

/-! ## Keys of segments -/

/-- How many of the segments have this key. -/
def keyCount (key : Text) (segments : List Segment) : Nat :=
  (segments.map Segment.key).count key

@[simp]
theorem keyCount_append (key : Text) (a b : List Segment) :
    keyCount key (a ++ b) = keyCount key a + keyCount key b := by
  unfold keyCount
  rw [List.map_append, List.count_append]

theorem keyCount_cons (key : Text) (segment : Segment) (rest : List Segment) :
    keyCount key (segment :: rest) = keyCount key [segment] + keyCount key rest :=
  keyCount_append key [segment] rest

theorem keyCount_perm {a b : List Segment} (h : a.Perm b) (key : Text) :
    keyCount key a = keyCount key b :=
  (h.map Segment.key).count_eq key

/-! ## What one operation notes -/

namespace Session

variable (s : Session)

/-- The keys that are noted are those of the segments that are to be classified. -/
theorem count_note (segment : Segment) (key : Text) :
    (s.note segment).1.seen.count key =
      s.seen.count key + if (s.note segment).2 then keyCount key [segment] else 0 := by
  unfold note
  split
  · rfl
  · simp only [if_true, List.count_cons, keyCount, List.map_cons, List.map_nil, List.count_nil,
      Nat.zero_add]

theorem count_noteAll (segments : List Segment) (key : Text) :
    (s.noteAll segments).1.seen.count key =
      s.seen.count key + keyCount key (s.noteAll segments).2 := by
  induction segments generalizing s with
  | nil => rfl
  | cons segment rest ih =>
    have hnote := s.count_note segment key
    simp only [noteAll]
    rw [ih, hnote]
    split
    · rw [keyCount_cons key segment ((s.note segment).1.noteAll rest).2, Nat.add_assoc]
    · rfl

theorem count_draw (key : Text) :
    s.draw.1.seen.count key = s.seen.count key + keyCount key s.draw.2 :=
  count_noteAll { s with buffer := s.buffer.takeCompleted.2, cursor := 0 }
    s.buffer.takeCompleted.1 key

theorem count_drain (key : Text) :
    s.drain.1.seen.count key = s.seen.count key + keyCount key s.drain.2.toList := by
  cases hsegment : s.buffer.segment? s.buffer.text with
  | none =>
    rw [drain_of_none hsegment]
    rfl
  | some segment =>
    have hnote := count_note { s with buffer := s.buffer.clear, cursor := 0 } segment key
    rw [drain_of_some hsegment]
    dsimp only
    rw [hnote]
    split <;> rfl

/-- No key is noted twice. -/
theorem nodup_note (h : s.seen.Nodup) (segment : Segment) : (s.note segment).1.seen.Nodup := by
  unfold note
  split
  · exact h
  · rename_i hfresh
    refine List.nodup_cons.mpr ⟨?_, h⟩
    intro hm
    exact hfresh (.inr (List.contains_iff_mem.mpr hm))

theorem nodup_noteAll (h : s.seen.Nodup) (segments : List Segment) :
    (s.noteAll segments).1.seen.Nodup := by
  induction segments generalizing s with
  | nil => exact h
  | cons segment rest ih => exact ih _ (s.nodup_note h segment)

theorem nodup_drain (h : s.seen.Nodup) : s.drain.1.seen.Nodup := by
  cases hsegment : s.buffer.segment? s.buffer.text with
  | none =>
    rw [drain_of_none hsegment]
    exact h
  | some segment =>
    rw [drain_of_some hsegment]
    exact nodup_note { s with buffer := s.buffer.clear, cursor := 0 } h segment

theorem seen_release (id : Nat) : (s.release id).seen = s.seen := by
  unfold release
  split <;> rfl

/-! ## What one slice notes -/

/-- The segments that a worker loses in a slice. When the receiver breaks down over the cues of a
segment, so does the worker, and the segments behind that one are not handed over any more. -/
def dropped (fails : Trigger → Bool) (id : Nat) : WorkerPlace → List Segment
  | .told i others => if (s.emit fails (.worker id) i.triggers).2.2 then [] else others
  | _ => []

/-- The receiver broke down over a cue if not all of them were taken. -/
theorem broke_of_not_taken (fails : Trigger → Bool) (a : Actor) (ts : List Trigger)
    (h : (s.emit fails a ts).2.2 = false) : ∃ t, .broke a t ∈ (s.emit fails a ts).2.1 := by
  have hdeliver (ts : List Trigger) (h : (deliver fails a ts).2 = false) :
      ∃ t, .broke a t ∈ (deliver fails a ts).1 := by
    induction ts with
    | nil => cases h
    | cons t rest ih =>
      simp only [deliver] at h ⊢
      split
      · exact ⟨t, List.mem_singleton_self _⟩
      · rename_i htaken
        rw [if_neg htaken] at h
        obtain ⟨u, hu⟩ := ih h
        exact ⟨u, List.mem_cons_of_mem _ hu⟩
  obtain ⟨t, ht⟩ := hdeliver _ h
  exact ⟨t, List.mem_append_right _ ht⟩

/-- A worker that loses a segment does so because the receiver broke down. -/
theorem broke_of_dropped (fails : Trigger → Bool) {id : Nat} (ha : s.active = some id)
    {place : WorkerPlace} (h : s.dropped fails id place ≠ []) :
    ∃ t, .broke (.worker id) t ∈ (s.workSlice fails id place).events := by
  cases place with
  | told i others =>
    have htaken : (s.emit fails (.worker id) i.triggers).2.2 = false := by
      by_contra htaken
      have htaken : (s.emit fails (.worker id) i.triggers).2.2 = true := by simpa using htaken
      simp only [dropped, htaken, if_true, ne_eq, not_true_eq_false] at h
    rw [workSlice, if_neg (not_not_intro ha)]
    exact s.broke_of_not_taken fails (.worker id) i.triggers htaken
  | _ => exact absurd rfl h

/-- What the active worker notes in a slice is what it has in its hands afterwards, what it has
handed over and what it has lost, less what was in its hands before. -/
theorem count_workSlice (fails : Trigger → Bool) {id : Nat} (ha : s.active = some id)
    (place : WorkerPlace) (key : Text) :
    (s.workSlice fails id place).session.seen.count key + keyCount key place.held =
      s.seen.count key +
        keyCount key ((s.workSlice fails id place).passedOn WorkerPlace.held) +
        keyCount key (s.dropped fails id place) := by
  cases place with
  | going batch =>
    cases batch with
    | nil =>
      rw [workSlice, if_neg (not_not_intro ha)]
      split
      · have hdraw := s.count_draw key
        show s.draw.1.seen.count key + 0 = _ + keyCount key ([] ++ s.draw.2) + 0
        rw [hdraw, List.nil_append]
      · show (s.release id).seen.count key + 0 = s.seen.count key + 0 + 0
        rw [seen_release]
    | cons segment others =>
      rw [workSlice]
      split
      · rfl
      · rfl
  | waiting segment others => rfl
  | told i others =>
    have hseen : (s.emit fails (.worker id) i.triggers).1.seen = s.seen := by
      show (s.pass i.triggers).1.seen = s.seen
      rw [pass_eq]
    have hevents := segmentsOf_emit fails (.worker id) s i.triggers
    rw [workSlice, if_neg (not_not_intro ha)]
    unfold Turn.passedOn dropped
    dsimp only
    rw [hseen, hevents]
    split
    · rfl
    · show s.seen.count key + keyCount key others = s.seen.count key + 0 + keyCount key others
      omega
  | checking others =>
    rw [workSlice, if_pos ha]
    rfl
  | leaving =>
    show (s.release id).seen.count key + 0 = s.seen.count key + 0 + 0
    rw [seen_release]

theorem nodup_workSlice (h : s.seen.Nodup) (fails : Trigger → Bool) (id : Nat)
    (place : WorkerPlace) : (s.workSlice fails id place).session.seen.Nodup := by
  cases place with
  | going batch =>
    cases batch with
    | nil =>
      rw [workSlice]
      split
      · exact h
      · split
        · exact nodup_noteAll { s with buffer := s.buffer.takeCompleted.2, cursor := 0 } h _
        · rwa [seen_release]
    | cons segment others =>
      rw [workSlice]
      split <;> exact h
  | waiting segment others => exact h
  | told i others =>
    rw [workSlice]
    split
    · exact h
    · show (s.pass i.triggers).1.seen.Nodup
      rwa [pass_eq]
  | checking others => exact h
  | leaving =>
    show (s.release id).seen.Nodup
    rwa [seen_release]

/-- A flush loses nothing. -/
theorem count_flushSlice (fails : Trigger → Bool) (lives : Nat → Bool) (id : Nat)
    (place : FlushPlace) (key : Text) :
    (s.flushSlice fails lives id place).session.seen.count key + keyCount key place.held =
      s.seen.count key +
        keyCount key ((s.flushSlice fails lives id place).passedOn FlushPlace.held) := by
  cases place with
  | ready =>
    rw [flushSlice]
    split <;> rfl
  | joining worker =>
    rw [flushSlice]
    split <;> rfl
  | draining =>
    have hdrain := s.count_drain key
    rw [flushSlice]
    split
    · rename_i hnone
      rwa [hnone] at hdrain
    · rename_i hsome
      rwa [hsome] at hdrain
  | asking segment response =>
    rw [flushSlice]
    split <;> rfl
  | waiting segment response => rfl
  | told i response =>
    have hevents := (segmentsOf_resumeFlush fails s id i response).1
    have hsession := (resumeFlush_eq fails s id i response).2
    rw [flushSlice]
    unfold Turn.passedOn
    dsimp only
    rw [hevents, hsession]
    rfl

theorem nodup_flushSlice (h : s.seen.Nodup) (fails : Trigger → Bool) (lives : Nat → Bool)
    (id : Nat) (place : FlushPlace) : (s.flushSlice fails lives id place).session.seen.Nodup := by
  cases place with
  | ready =>
    rw [flushSlice]
    split <;> exact h
  | joining worker => exact h
  | draining =>
    have hdrain := s.nodup_drain h
    rw [flushSlice]
    split
    · rename_i hnone
      rwa [hnone] at hdrain
    · rename_i hsome
      rwa [hsome] at hdrain
  | asking segment response =>
    rw [flushSlice]
    split <;> exact h
  | waiting segment response => exact h
  | told i response =>
    show (s.resumeFlush fails id i response).session.seen.Nodup
    rw [(resumeFlush_eq fails s id i response).2]
    exact h

end Session

/-! ## Noted, handed over, lost -/

/-- The noted keys are those of the segments that were handed over and of those that were lost, each
once. -/
structure KeysStand (seen : List Text) (handed lost : List Segment) : Prop where
  unrepeated : seen.Nodup
  keys : seen.Perm ((handed ++ lost).map Segment.key)

/-- The key of a lost segment is that of no segment that was handed over. -/
theorem KeysStand.all_handed_iff {seen : List Text} {handed lost : List Segment}
    (h : KeysStand seen handed lost) :
    (∀ key ∈ seen, ∃ segment ∈ handed, segment.key = key) ↔ lost = [] := by
  have hkeys := h.keys
  rw [List.map_append] at hkeys
  have hapart := (List.nodup_append.mp (hkeys.nodup_iff.mp h.unrepeated)).2.2
  constructor
  · intro hall
    refine List.eq_nil_iff_forall_not_mem.mpr fun segment hsegment => ?_
    have hlost : segment.key ∈ lost.map Segment.key := List.mem_map_of_mem hsegment
    obtain ⟨other, hother, hkey⟩ := hall _ (hkeys.mem_iff.mpr (List.mem_append_right _ hlost))
    exact hapart _ (List.mem_map_of_mem hother) _ hlost hkey
  · rintro rfl key hkey
    have hhanded := hkeys.mem_iff.mp hkey
    rw [List.map_nil, List.append_nil] at hhanded
    exact List.mem_map.mp hhanded

/-! ## The hands of all tasks -/

namespace Sliced

/-- The segments that are lost in a slice. -/
def dropped (fails : Trigger → Bool) (w : Sliced) : Slice → List Segment
  | .workerTurn id => ((w.workers.lookup id).map (w.session.dropped fails id)).getD []
  | _ => []

/-- The segments that are lost in a play. -/
def lost (w : Sliced) : List (Beat Slice) → List Segment
  | [] => []
  | b :: rest => w.dropped b.fails b.act ++ (w.step b.fails b.act).1.lost rest

/-- Every key that was noted is accounted for: its segment was handed over, or lost, or it is in the
hands of the active worker or of a flush. Of the workers only those that are leaving are not the
active one. -/
structure Recorded (handed gone : List Segment) (w : Sliced) : Prop where
  numbered : Numbered w.session.nextWorker w.workers
  posted : ∀ e ∈ w.workers, e.2 ≠ .leaving → w.session.active = some e.1
  unrepeated : w.session.seen.Nodup
  keys : ∀ key, w.session.seen.count key =
    keyCount key handed + keyCount key gone +
      keyCount key (WorkerPlace.heldBy w.session.active w.workers) +
      keyCount key (inHands FlushPlace.held w.flushes)

namespace Recorded

variable {handed gone : List Segment} {w : Sliced}

theorem new (config : CueConfig) (clock : Millis) : Recorded [] [] (new config clock) :=
  ⟨.nil, nofun, .nil, fun _ => rfl⟩

/-- A change of the session that moves nobody and notes nothing. -/
theorem withSession (h : Recorded handed gone w) {s : Session}
    (hactive : s.active = w.session.active) (hnext : s.nextWorker = w.session.nextWorker)
    (hseen : s.seen = w.session.seen) : Recorded handed gone { w with session := s } := by
  refine ⟨hnext ▸ h.numbered, hactive ▸ h.posted, hseen ▸ h.unrepeated, ?_⟩
  intro key
  show s.seen.count key = _ + _ + keyCount key (WorkerPlace.heldBy s.active w.workers) + _
  rw [hactive, hseen]
  exact h.keys key

theorem feed (h : Recorded handed gone w) (fails : Trigger → Bool) (chunk : Text)
    (canWork : Bool) : Recorded handed gone (w.step fails (.feed chunk canWork)).1 := by
  have hseen := w.session.seen_feed chunk canWork
  unfold step
  rcases w.session.feed_places chunk canWork with ⟨hworker, hplaces⟩ | ⟨hworker, hidle, hsession⟩
  · simp only [hworker, Option.map_none, Option.toList_none, List.append_nil]
    exact h.withSession hplaces.active hplaces.nextWorker hseen
  · have hnext := (Session.samePlaces_heard w.session chunk).nextWorker
    rw [hsession] at hseen
    simp only [hworker, hsession, Option.map_some, Option.toList_some]
    have hself : (w.workers ++ [(w.session.nextWorker, WorkerPlace.going [])]).lookup
        w.session.nextWorker = some (.going []) := by
      rw [List.lookup_append, h.numbered.lookup_next]
      simp
    refine ⟨?_, ?_, hseen ▸ h.unrepeated, ?_⟩
    · show Numbered ((w.session.heard chunk).nextWorker + 1) _
      rw [hnext]
      exact h.numbered.concat _
    · intro e he hplace
      show some (w.session.heard chunk).nextWorker = some e.1
      rcases List.mem_append.mp he with he | he
      · cases hidle.symm.trans (h.posted e he hplace)
      · rw [List.mem_singleton.mp he, hnext]
    · intro key
      have hkeys := h.keys key
      rw [hidle] at hkeys
      show (w.session.heard chunk).hired.seen.count key = _ + _ +
        keyCount key (WorkerPlace.heldBy (some (w.session.heard chunk).nextWorker) _) + _
      rw [hseen, hnext, WorkerPlace.heldBy_of_lookup hself]
      exact hkeys

/-- A worker that is not the active one is leaving, and does nothing else. -/
theorem turn_of_revoked (h : Recorded handed gone w) (fails : Trigger → Bool) {id : Nat}
    (ha : w.session.active ≠ some id) {place : WorkerPlace}
    (hl : w.workers.lookup id = some place) :
    Recorded (handed ++ segmentsOf (w.session.workSlice fails id place).events)
      (gone ++ w.session.dropped fails id place)
      (w.afterWorker id (w.session.workSlice fails id place)).1 := by
  have hplace : place = .leaving := by
    by_contra hplace
    exact ha (h.posted (id, place) (mem_of_lookup hl) hplace)
  subst hplace
  have hleaving : w.session.workSlice fails id .leaving =
      ⟨w.session, none, [.ended (.worker id)]⟩ := by
    rw [Session.workSlice, Session.release_of_revoked ha]
  rw [hleaving]
  show Recorded (handed ++ []) (gone ++ []) _
  rw [List.append_nil, List.append_nil]
  refine ⟨h.numbered.put hl _, forall_mem_put h.posted (by simp), h.unrepeated, ?_⟩
  · intro key
    have hheld : WorkerPlace.heldBy w.session.active (put id none w.workers) =
        WorkerPlace.heldBy w.session.active w.workers := WorkerPlace.heldBy_put ha
    show _ = _ + _ + keyCount key (WorkerPlace.heldBy w.session.active (put id none w.workers)) + _
    rw [hheld]
    exact h.keys key

/-- What the active worker draws it holds, until it hands it over or breaks down. -/
theorem turn_of_active (h : Recorded handed gone w) (fails : Trigger → Bool) {id : Nat}
    (ha : w.session.active = some id) {place : WorkerPlace}
    (hl : w.workers.lookup id = some place) :
    Recorded (handed ++ segmentsOf (w.session.workSlice fails id place).events)
      (gone ++ w.session.dropped fails id place)
      (w.afterWorker id (w.session.workSlice fails id place)).1 := by
  have hframe := Session.sameFrame_workSlice fails id w.session place
  have hsliced := Session.workSliced fails id w.session place
  have hcount := w.session.count_workSlice fails ha place
  have hnodup := w.session.nodup_workSlice h.unrepeated fails id place
  have hkeys := h.keys
  rw [ha, WorkerPlace.heldBy_of_lookup hl] at hkeys
  generalize w.session.workSlice fails id place = t at hframe hsliced hcount hnodup ⊢
  -- the worker is still the active one, or it has given up its place with empty hands
  have hheld : WorkerPlace.heldBy t.session.active (put id t.stage w.workers) =
      (t.stage.map WorkerPlace.held).getD [] := by
    cases hsliced with
    | revoked hrevoked => exact absurd ha hrevoked
    | stays _ hactive _ hstage =>
      rw [hactive, hstage, WorkerPlace.heldBy_of_lookup (lookup_put_some hl _)]
      rfl
    | vain _ _ _ hsession hstage | left _ _ hsession hstage =>
      rw [hsession, hstage, Session.release, if_pos ha]
      rfl
  refine ⟨hframe.nextWorker ▸ h.numbered.put hl t.stage, ?_, hnodup, ?_⟩
  · intro e he hplace
    rcases mem_put_cases h.numbered.nodup (Option.isSome_of_eq_some hl) he with
      ⟨he, hne⟩ | ⟨next, hnext, rfl⟩
    · exact absurd (Option.some.inj (ha.symm.trans (h.posted e he hplace))).symm hne
    · cases hsliced with
      | revoked hrevoked => exact absurd ha hrevoked
      | stays _ hactive => exact hactive
      | vain _ _ _ _ hstage =>
        cases hnext.symm.trans hstage
        exact absurd rfl hplace
      | left _ _ _ hstage => cases hnext.symm.trans hstage
  · intro key
    have hbefore := hkeys key
    have hafter := hcount key
    unfold Session.Turn.passedOn at hafter
    rw [keyCount_append] at hafter
    show t.session.seen.count key = keyCount key (handed ++ segmentsOf t.events) + _ +
      keyCount key (WorkerPlace.heldBy t.session.active (put id t.stage w.workers)) + _
    rw [hheld, keyCount_append, keyCount_append]
    show t.session.seen.count key = _ + _ + _ + keyCount key (inHands FlushPlace.held w.flushes)
    omega

theorem workerTurn (h : Recorded handed gone w) (fails : Trigger → Bool) {id : Nat}
    {place : WorkerPlace} (hl : w.workers.lookup id = some place) :
    Recorded (handed ++ segmentsOf (w.session.workSlice fails id place).events)
      (gone ++ w.session.dropped fails id place)
      (w.afterWorker id (w.session.workSlice fails id place)).1 := by
  by_cases ha : w.session.active = some id
  · exact h.turn_of_active fails ha hl
  · exact h.turn_of_revoked fails ha hl

theorem flushTurn (h : Recorded handed gone w) (fails : Trigger → Bool) {id : Nat}
    {place : FlushPlace} (hl : w.flushes.lookup id = some place) :
    Recorded (handed ++ segmentsOf (w.session.flushSlice fails w.lives id place).events) gone
      (w.afterFlush id (w.session.flushSlice fails w.lives id place)).1 := by
  have hflush := Session.flushSliced fails w.lives id w.session place
  have hcount := w.session.count_flushSlice fails w.lives id place
  have hnodup := w.session.nodup_flushSlice h.unrepeated fails w.lives id place
  obtain ⟨rest, hbefore, hafter⟩ := inHands_put FlushPlace.held hl
  generalize w.session.flushSlice fails w.lives id place = t at hflush hcount hnodup ⊢
  refine ⟨hflush.frame.nextWorker ▸ h.numbered, hflush.active ▸ h.posted, hnodup, ?_⟩
  intro key
  have hkeys := h.keys key
  have hslice := hcount key
  have hold := keyCount_perm hbefore key
  have hnew := keyCount_perm (hafter t.stage) key
  unfold Session.Turn.passedOn at hslice
  rw [keyCount_append] at hslice hold hnew
  show t.session.seen.count key = keyCount key (handed ++ segmentsOf t.events) + _ +
    keyCount key (WorkerPlace.heldBy t.session.active w.workers) +
      keyCount key (inHands FlushPlace.held (put id t.stage w.flushes))
  rw [hflush.active, keyCount_append]
  omega

/-- An answer leaves the segments where they are. -/
theorem workerAnswer (h : Recorded handed gone w) {id : Nat} {segment : Segment}
    {others : List Segment} (hl : w.workers.lookup id = some (.waiting segment others))
    (i : Intent) :
    Recorded handed gone { w with workers := put id (some (.told i others)) w.workers } := by
  have ha : w.session.active = some id :=
    h.posted (id, .waiting segment others) (mem_of_lookup hl) (by simp)
  refine ⟨h.numbered.put hl _, forall_mem_put h.posted fun _ _ _ => ha, h.unrepeated, ?_⟩
  · intro key
    have hkeys := h.keys key
    rw [ha, WorkerPlace.heldBy_of_lookup hl] at hkeys
    show _ = _ + _ + keyCount key (WorkerPlace.heldBy w.session.active _) + _
    rw [ha, WorkerPlace.heldBy_of_lookup (lookup_put_some hl (.told i others))]
    exact hkeys

theorem flushAnswer (h : Recorded handed gone w) {id : Nat} {segment : Segment} {response : Nat}
    (hl : w.flushes.lookup id = some (.waiting segment response)) (i : Intent) :
    Recorded handed gone { w with flushes := put id (some (.told i response)) w.flushes } := by
  obtain ⟨rest, hbefore, hafter⟩ := inHands_put FlushPlace.held hl
  have hheld := hbefore.trans (hafter (some (.told i response))).symm
  refine ⟨h.numbered, h.posted, h.unrepeated, ?_⟩
  intro key
  have hkeys := h.keys key
  rwa [keyCount_perm hheld key] at hkeys

/-- A flush begins with empty hands. -/
theorem flush (h : Recorded handed gone w) :
    Recorded handed gone
      { w with flushes := w.flushes ++ [(w.nextFlush, .ready)], nextFlush := w.nextFlush + 1 } := by
  refine ⟨h.numbered, h.posted, h.unrepeated, ?_⟩
  intro key
  have hheld : inHands FlushPlace.held (w.flushes ++ [(w.nextFlush, .ready)]) =
      inHands FlushPlace.held w.flushes := by
    simp [inHands, FlushPlace.held]
  show _ = _ + _ + _ + keyCount key (inHands FlushPlace.held (w.flushes ++ [(w.nextFlush, .ready)]))
  rw [hheld]
  exact h.keys key

/-- One slice in which no response begins. What is lost in it is lost because the receiver broke
down over a cue of a worker. -/
theorem step (h : Recorded handed gone w) (fails : Trigger → Bool) {x : Slice}
    (hx : x.isReset = false) :
    Recorded (handed ++ segmentsOf (w.step fails x).2) (gone ++ w.dropped fails x)
        (w.step fails x).1 ∧
      (w.dropped fails x ≠ [] → ∃ id t, .broke (.worker id) t ∈ (w.step fails x).2) := by
  have hstill : Recorded (handed ++ segmentsOf []) (gone ++ []) w := by
    rw [segmentsOf_nil, List.append_nil, List.append_nil]
    exact h
  have hspec := step_spec fails w x
  generalize w.step fails x = after at hspec ⊢
  cases hspec with
  | still x htask hvain =>
    have hdropped : w.dropped fails x = [] := by
      cases x with
      | workerTurn id => simp only [dropped, hvain id rfl, Option.map_none, Option.getD_none]
      | _ => rfl
    rw [hdropped]
    exact ⟨hstill, absurd rfl⟩
  | feed chunk canWork =>
    rw [segmentsOf_feed, List.append_nil]
    exact ⟨(List.append_nil gone).symm ▸ h.feed fails chunk canWork, absurd rfl⟩
  | flush => exact ⟨hstill.flush, absurd rfl⟩
  | @workerTurn id place hl =>
    have hdropped : w.dropped fails (.workerTurn id) = w.session.dropped fails id place := by
      simp only [dropped, hl, Option.map_some, Option.getD_some]
    rw [hdropped]
    refine ⟨h.workerTurn fails hl, ?_⟩
    intro hlost
    have ha : w.session.active = some id := by
      refine h.posted (id, place) (mem_of_lookup hl) ?_
      rintro rfl
      exact hlost rfl
    exact ⟨id, w.session.broke_of_dropped fails ha hlost⟩
  | flushTurn hl => exact ⟨(List.append_nil gone).symm ▸ h.flushTurn fails hl, absurd rfl⟩
  | workerAnswer a hl => exact ⟨hstill.workerAnswer hl (Classifier.settled a), absurd rfl⟩
  | flushAnswer a hl => exact ⟨hstill.flushAnswer hl (Classifier.settled a), absurd rfl⟩
  | reset => cases hx
  | resetGates => exact ⟨hstill.withSession rfl rfl rfl, absurd rfl⟩
  | playback c length => exact ⟨hstill.withSession rfl rfl rfl, absurd rfl⟩
  | setClock time => exact ⟨hstill.withSession rfl rfl rfl, absurd rfl⟩

/-- A play in which no response begins. -/
theorem play (h : Recorded handed gone w) {beats : List (Beat Slice)}
    (hbeats : ∀ b ∈ beats, b.act.isReset = false) :
    Recorded (handed ++ segmentsOf (w.play beats).2) (gone ++ w.lost beats) (w.play beats).1 ∧
      (w.lost beats ≠ [] → ∃ id t, .broke (.worker id) t ∈ (w.play beats).2) := by
  induction beats generalizing handed gone w with
  | nil =>
    show Recorded (handed ++ segmentsOf []) (gone ++ []) w ∧ _
    rw [segmentsOf_nil, List.append_nil, List.append_nil]
    exact ⟨h, absurd rfl⟩
  | cons b rest ih =>
    obtain ⟨hb, hrest⟩ := List.forall_mem_cons.mp hbeats
    obtain ⟨hstep, hbroke⟩ := h.step b.fails hb
    obtain ⟨hlater, hbrokeLater⟩ := ih hstep hrest
    simp only [Sliced.play, lost, segmentsOf_append]
    rw [← List.append_assoc, ← List.append_assoc]
    refine ⟨hlater, ?_⟩
    intro hlost
    by_cases hfirst : w.dropped b.fails b.act = []
    · rw [hfirst, List.nil_append] at hlost
      obtain ⟨id, t, ht⟩ := hbrokeLater hlost
      exact ⟨id, t, List.mem_append_right _ ht⟩
    · obtain ⟨id, t, ht⟩ := hbroke hfirst
      exact ⟨id, t, List.mem_append_left _ ht⟩

/-- When all tasks are over, no segment is in anybody's hands. -/
theorem stand (h : Recorded handed gone w) (hworkers : w.workers = []) (hflushes : w.flushes = []) :
    KeysStand w.session.seen handed gone := by
  refine ⟨h.unrepeated, ?_⟩
  rw [List.perm_iff_count]
  intro key
  have hheld : WorkerPlace.heldBy w.session.active w.workers = [] := by
    rw [hworkers]
    cases w.session.active <;> rfl
  rw [h.keys key, hheld, hflushes]
  exact (keyCount_append key handed gone).symm

end Recorded

end Sliced

namespace World

/-- A play in which no response begins. -/
theorem recorded_play {handed gone : List Segment} {w : World}
    (h : w.sliced.Recorded handed gone) {beats : List (Beat Move)}
    (hbeats : ∀ b ∈ beats, b.act.isReset = false) :
    ∃ more, (w.play beats).1.sliced.Recorded (handed ++ segmentsOf (w.play beats).2)
        (gone ++ more) ∧
      (more ≠ [] → ∃ id t, .broke (.worker id) t ∈ (w.play beats).2) := by
  obtain ⟨slices, hslices, hresets⟩ := w.play_in_slices beats
  have hplay := h.play (hresets hbeats)
  rw [hslices] at hplay
  exact ⟨_, hplay⟩

/-- Once all tasks are over, the keys that were noted since the session began are those of the
segments that were handed over and of those that were lost, each once. So every noted key was handed
over if and only if none was lost. A segment is lost only when the receiver breaks down over a cue of
a worker: the segments that this worker has still to hand over go with it, though their keys are
noted. This holds slice by slice, and hence move by move. -/
theorem a_noted_key_was_handed_over_or_lost (config : CueConfig) (clock : Millis) :
    (∀ beats : List (Beat Slice), (∀ b ∈ beats, b.act.isReset = false) →
        let w := (Sliced.new config clock).play beats
        let lost := (Sliced.new config clock).lost beats
        (lost ≠ [] → ∃ id t, .broke (.worker id) t ∈ w.2) ∧
          (w.1.workers = [] → w.1.flushes = [] →
            KeysStand w.1.session.seen (segmentsOf w.2) lost ∧
              ((∀ key ∈ w.1.session.seen, ∃ segment ∈ segmentsOf w.2, segment.key = key) ↔
                lost = []))) ∧
      ∀ beats : List (Beat Move), (∀ b ∈ beats, b.act.isReset = false) →
        let w := (new config clock).play beats
        w.1.workers = [] → w.1.flushes = [] →
          ∃ lost, KeysStand w.1.session.seen (segmentsOf w.2) lost ∧
            ((∀ key ∈ w.1.session.seen, ∃ segment ∈ segmentsOf w.2, segment.key = key) ↔
              lost = []) ∧
            (lost ≠ [] → ∃ id t, .broke (.worker id) t ∈ w.2) := by
  have hnew := Sliced.Recorded.new config clock
  constructor
  · intro beats hbeats w lost
    obtain ⟨hrecorded, hbroke⟩ := hnew.play hbeats
    refine ⟨hbroke, ?_⟩
    intro hworkers hflushes
    have hstand := hrecorded.stand hworkers hflushes
    exact ⟨hstand, hstand.all_handed_iff⟩
  · intro beats hbeats w hworkers hflushes
    obtain ⟨lost, hrecorded, hbroke⟩ := recorded_play (w := new config clock) hnew hbeats
    have hstand := hrecorded.stand (congrArg (List.map _) hworkers) (congrArg (List.map _) hflushes)
    exact ⟨lost, hstand, hstand.all_handed_iff, hbroke⟩

/-- The receiver breaks down over the nod for the first of two sentences. The second one is noted but
not handed over, and it is not handed over either when it comes again. -/
theorem a_coat_is_noted_and_not_handed_over :
    let config : CueConfig := { gestures := [], expressions := [] }
    let nod := Answer.text "\x7b\"gesture\": \"nod\"\x7d".toList
    let rain := "Rain is coming.\nBring a warm coat.\nThen".toList
    let coat := " we go home.\nBring a warm coat.\nAnd".toList
    let beats : List (Beat Move) :=
      [⟨.feed rain true, unfailing⟩, ⟨.workerTurn 0, unfailing⟩,
        ⟨.workerAnswer 0 nod, (· = .gesture .nod)⟩,
        ⟨.feed coat true, unfailing⟩, ⟨.workerTurn 1, unfailing⟩,
        ⟨.workerAnswer 1 .crash, unfailing⟩]
    let slices : List (Beat Slice) :=
      [⟨.feed rain true, unfailing⟩, ⟨.workerTurn 0, unfailing⟩, ⟨.workerTurn 0, unfailing⟩,
        ⟨.workerAnswer 0 nod, unfailing⟩, ⟨.workerTurn 0, (· = .gesture .nod)⟩,
        ⟨.workerTurn 0, unfailing⟩]
    let w := (new config 10000).play beats
    let v := (Sliced.new config 10000).play slices
    let lost := (Sliced.new config 10000).lost slices
    ((∀ b ∈ beats, b.act.isReset = false) ∧ w.1.workers = [] ∧ w.1.flushes = [] ∧
        (segmentsOf w.2).map Segment.key = ["Rain is coming.".toList, "Then we go home.".toList] ∧
        w.1.session.seen =
          ["Then we go home.".toList, "Bring a warm coat.".toList, "Rain is coming.".toList] ∧
        ∃ lost, KeysStand w.1.session.seen (segmentsOf w.2) lost ∧
          ((∀ key ∈ w.1.session.seen, ∃ segment ∈ segmentsOf w.2, segment.key = key) ↔
            lost = []) ∧
          (lost ≠ [] → ∃ id t, .broke (.worker id) t ∈ w.2)) ∧
      (∀ b ∈ slices, b.act.isReset = false) ∧ v.1.workers = [] ∧ v.1.flushes = [] ∧
      lost.map Segment.key = ["Bring a warm coat.".toList] ∧
      (∃ id t, .broke (.worker id) t ∈ v.2) ∧
      KeysStand v.1.session.seen (segmentsOf v.2) lost := by
  intro config nod rain coat beats slices
  dsimp only
  obtain ⟨hslices, hmoves⟩ := a_noted_key_was_handed_over_or_lost config 10000
  have hbeats : ∀ b ∈ beats, b.act.isReset = false := by decide +kernel
  have hworkers : ((new config 10000).play beats).1.workers = [] := by decide +kernel
  have hflushes : ((new config 10000).play beats).1.flushes = [] := by decide +kernel
  have hstill : ∀ b ∈ slices, b.act.isReset = false := by decide +kernel
  have hended : ((Sliced.new config 10000).play slices).1.workers = [] := by decide +kernel
  have hflushed : ((Sliced.new config 10000).play slices).1.flushes = [] := by decide +kernel
  have hlost : ((Sliced.new config 10000).lost slices).map Segment.key =
      ["Bring a warm coat.".toList] := by decide +kernel
  have hmissing : (Sliced.new config 10000).lost slices ≠ [] := by
    intro hnone
    rw [hnone] at hlost
    cases hlost
  obtain ⟨hbroke, hover⟩ := hslices slices hstill
  refine ⟨⟨hbeats, hworkers, hflushes, ?_, ?_, hmoves beats hbeats hworkers hflushes⟩, hstill,
    hended, hflushed, hlost, hbroke hmissing, (hover hended hflushed).1⟩
  all_goals decide +kernel

end World

end CueStream
