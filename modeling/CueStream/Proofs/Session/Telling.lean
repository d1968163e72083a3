-- One response from its first piece of text to the end of its flush. However
-- the text is cut into pieces, and whenever the worker has its turns, the
-- model is asked about the same passages in the same order.
import CueStream.Proofs.Classifier.Asking
import CueStream.Proofs.Session.Progress
import CueStream.Proofs.Session.Streaming

namespace CueStream

/-- A move that a caller asks for to feed, to flush or to begin anew. -/
def Move.isCommand : Move → Bool
  | .feed _ _ => true
  | .flush => true
  | .reset => true
  | .fullReset => true
  | _ => false

/-- Only commands tell something. -/
theorem told_filter (ms : List Move) : told (ms.filter Move.isCommand) = told ms := by
  induction ms with
  | nil => rfl
  | cons m rest ih =>
    cases hm : m.isCommand with
    | true => rw [List.filter_cons_of_pos hm, told_cons, told_cons, ih]
    | false =>
      have hnone : m.told = [] := by
        cases m <;> first | rfl | cases hm
      rw [List.filter_cons_of_neg (by simp [hm]), told_cons, ih, hnone]
      rfl

theorem told_feeds (chunks : List Text) (canWork : Bool) :
    told (chunks.map (Move.feed · canWork)) = chunks.flatten := by
  induction chunks with
  | nil => rfl
  | cons chunk rest ih =>
    rw [List.map_cons, List.flatten_cons, ← ih]
    rfl

/-- The questions about segments without blanks at their ends are those about the long ones. -/
theorem questions_eq (config : CueConfig) {segments : List Segment}
    (h : ∀ segment ∈ segments, segment.text.trim = segment.text) :
    questions config segments = (segments.filter (config.minClassifyChars ≤ ·.size)).map
      fun segment => Classifier.question config segment.text := by
  induction segments with
  | nil => rfl
  | cons segment rest ih =>
    obtain ⟨hsegment, hrest⟩ := List.forall_mem_cons.mp h
    have hstripped : Text.Stripped segment.text segment.text :=
      Text.stripped_iff.mpr hsegment.symm
    rw [show questions config (segment :: rest) =
      questions config [segment] ++ questions config rest from questions_append config [segment] rest,
      ih hrest]
    by_cases hlong : config.minClassifyChars ≤ segment.size
    · rw [questions_of_some (Classifier.call?_of_long hstripped (Nat.not_lt_of_le hlong)),
        List.filter_cons_of_pos (by simpa using hlong)]
      rfl
    · rw [questions_of_none (Classifier.call?_of_short hstripped (Nat.lt_of_not_le hlong)),
        List.filter_cons_of_neg (by simpa using hlong)]
      rfl

namespace World

/-! ## The whole course -/

/-- A world in the course of its first response. -/
structure InCourse (b : Buffer) (handed : List Segment) (w : World) : Prop where
  sound : Sound w
  exclusive : Exclusive w
  phase : Streaming b handed w ∨ Drained b handed w

/-- As long as the flush was not called, the buffer is not drained. -/
theorem InCourse.streaming {b : Buffer} {handed : List Segment} {w : World}
    (h : InCourse b handed w) (hnext : w.nextFlush = 0) :
    Streaming b handed w ∧ w.flushes = [] := by
  rcases h.phase with hs | hd
  · refine ⟨hs, ?_⟩
    rcases hs.flush with ⟨-, hnone⟩ | ⟨hone, -⟩
    · exact hnone
    · omega
  · have := hd.flush.1
    omega

theorem InCourse.feed {b : Buffer} {handed : List Segment} {w : World} (h : InCourse b handed w)
    (hnext : w.nextFlush = 0) (chunk : Text) :
    InCourse (b.append chunk) (handed ++ segmentsOf (w.step unfailing (.feed chunk true)).2)
      (w.step unfailing (.feed chunk true)).1 := by
  obtain ⟨hs, hnone⟩ := h.streaming hnext
  have hadmits : w.Admits (.feed chunk true) := by
    intro e he
    rw [hnone] at he
    cases he
  have hsegments : segmentsOf (w.step unfailing (.feed chunk true)).2 = [] :=
    segmentsOf_feed unfailing w chunk true
  refine ⟨h.sound.step unfailing _, h.exclusive.step h.sound hadmits unfailing, .inl ?_⟩
  rw [hsegments, List.append_nil]
  exact hs.feed unfailing chunk

theorem InCourse.called {b : Buffer} {handed : List Segment} {w : World} (h : InCourse b handed w)
    (hnext : w.nextFlush = 0) :
    InCourse b (handed ++ segmentsOf (w.step unfailing .flush).2) (w.step unfailing .flush).1 := by
  obtain ⟨hs, hnone⟩ := h.streaming hnext
  have hadmits : w.Admits .flush := by
    intro e he
    rw [hnone] at he
    cases he
  refine ⟨h.sound.step unfailing _, h.exclusive.step h.sound hadmits unfailing, .inl ?_⟩
  rw [show segmentsOf (w.step unfailing .flush).2 = [] from rfl, List.append_nil]
  exact hs.called hnext

/-- Turns, answers, clips and the clock keep the world in its course. -/
theorem InCourse.step {b : Buffer} {handed : List Segment} {w : World} (h : InCourse b handed w)
    {m : Move} (hm : m.isCommand = false) :
    InCourse b (handed ++ segmentsOf (w.step unfailing m).2) (w.step unfailing m).1 := by
  have hadmits : w.Admits m := by
    cases m <;> trivial
  refine ⟨h.sound.step unfailing m, h.exclusive.step h.sound hadmits unfailing, ?_⟩
  have hsound := h.sound
  have hexclusive := h.exclusive
  have hs := step_spec unfailing w m
  generalize w.step unfailing m = r at hs ⊢
  rcases h.phase with hphase | hphase
  · cases hs with
    | still =>
      rw [segmentsOf_nil, List.append_nil]
      exact .inl hphase
    | workerTurn hl => exact .inl (hphase.workerTurn hl)
    | workerAnswer a hl => exact .inl (hphase.workerAnswer hl (Classifier.settled a) a)
    | flushTurn hl hstage => exact hphase.flushTurn hsound hexclusive hl hstage
    | flushAnswer a hl =>
      have hmem := mem_of_lookup hl
      rcases hphase.flush with ⟨-, hnone⟩ | ⟨-, stage, hone, hwaiting⟩
      · rw [hnone] at hmem
        cases hmem
      · rw [hone] at hmem
        cases List.mem_singleton.mp hmem
        cases hwaiting
    | playback c length =>
      rw [segmentsOf_nil, List.append_nil]
      exact .inl (hphase.withSession rfl rfl rfl)
    | setClock time =>
      rw [segmentsOf_nil, List.append_nil]
      exact .inl (hphase.withSession rfl rfl rfl)
    | _ => cases hm
  · cases hs with
    | still =>
      rw [segmentsOf_nil, List.append_nil]
      exact .inr hphase
    | workerTurn hl =>
      rw [hphase.workers] at hl
      cases hl
    | workerAnswer a hl =>
      rw [hphase.workers] at hl
      cases hl
    | flushTurn hl hstage =>
      have hmem := mem_of_lookup hl
      rcases hphase.flush.2 with hnone | ⟨segment, hone⟩
      · rw [hnone] at hmem
        cases hmem
      · rw [hone] at hmem
        cases List.mem_singleton.mp hmem
        rcases hstage with hready | ⟨worker, hjoining, -⟩
        · cases hready
        · cases hjoining
    | @flushAnswer id segment response a hl =>
      obtain ⟨hstage, hsession⟩ :=
        Session.resumeFlush_eq unfailing w.session id (Classifier.settled a) response
      have hnone := (Session.segmentsOf_resumeFlush unfailing w.session id
        (Classifier.settled a) response).1
      have hsegments : segmentsOf ((w.session.resumeFlush unfailing id (Classifier.settled a)
          response).after [.answered (.flush id) a]).events = [] := by
        unfold Session.Turn.after
        rw [segmentsOf_append, hnone]
        rfl
      simp only [afterFlush, hsegments, List.append_nil]
      exact .inr (hphase.flushAnswer hl hstage hsession)
    | playback c length =>
      rw [segmentsOf_nil, List.append_nil]
      exact .inr (hphase.withSession rfl rfl rfl)
    | setClock time =>
      rw [segmentsOf_nil, List.append_nil]
      exact .inr (hphase.withSession rfl rfl rfl)
    | _ => cases hm

/-- The flushes are counted as they are called. -/
theorem nextFlush_step (fails : Trigger → Bool) (w : World) (m : Move) :
    (w.step fails m).1.nextFlush = w.nextFlush + [m].count .flush := by
  have hs := step_spec fails w m
  generalize w.step fails m = r at hs ⊢
  cases hs with
  | still m htask => cases m <;> first | rfl | cases htask
  | _ => rfl

theorem nextFlush_run (fails : Trigger → Bool) (w : World) (ms : List Move) :
    (w.run fails ms).1.nextFlush = w.nextFlush + ms.count .flush := by
  induction ms generalizing w with
  | nil => rfl
  | cons m rest ih =>
    have hcount : (m :: rest).count .flush = [m].count .flush + rest.count .flush := by
      rw [← List.count_append]
      rfl
    simp only [World.run]
    rw [ih, nextFlush_step, hcount, Nat.add_assoc]

/-- When the flush was called, all that follows is turns, answers, clips and the clock. -/
theorem InCourse.run_on {b : Buffer} {handed : List Segment} {w : World} (h : InCourse b handed w)
    {ms : List Move} (hms : ms.filter Move.isCommand = []) :
    InCourse b (handed ++ segmentsOf (w.run unfailing ms).2) (w.run unfailing ms).1 := by
  induction ms generalizing handed w with
  | nil =>
    rw [show segmentsOf (w.run unfailing []).2 = [] from rfl, List.append_nil]
    exact h
  | cons m rest ih =>
    have hm : m.isCommand = false := by
      simpa using List.filter_eq_nil_iff.mp hms m List.mem_cons_self
    rw [List.filter_cons_of_neg (by simp [hm])] at hms
    have := ih (h.step hm) hms
    simp only [World.run, segmentsOf_append]
    rw [← List.append_assoc]
    exact this

/-- A world stays in its course while text is fed, whatever happens in between, and when the flush
is called in the end. -/
theorem InCourse.run {b : Buffer} {handed : List Segment} {w : World} (h : InCourse b handed w)
    (hnext : w.nextFlush = 0) {chunks : List Text} {ms : List Move}
    (hms : ms.filter Move.isCommand <+: chunks.map (Move.feed · true) ++ [.flush]) :
    InCourse (b.append (told ms)) (handed ++ segmentsOf (w.run unfailing ms).2)
      (w.run unfailing ms).1 := by
  induction ms generalizing b handed w chunks with
  | nil =>
    rw [show segmentsOf (w.run unfailing []).2 = [] from rfl, List.append_nil,
      show told [] = [] from rfl, Buffer.append_nil]
    exact h
  | cons m rest ih =>
    simp only [World.run, segmentsOf_append]
    rw [← List.append_assoc, told_cons, ← Buffer.append_append]
    have hcount := nextFlush_step unfailing w m
    cases hm : m.isCommand with
    | false =>
      have hnone : m.told = [] := by
        cases m <;> first | rfl | cases hm
      have hzero : [m].count .flush = 0 := by
        cases m <;> first | rfl | cases hm
      rw [List.filter_cons_of_neg (by simp [hm])] at hms
      rw [hnone, Buffer.append_nil]
      exact ih (h.step hm) (by omega) hms
    | true =>
      -- the command is the one that is due: the next piece, or the flush when there is none
      rw [List.filter_cons_of_pos hm] at hms
      cases chunks with
      | nil =>
        obtain ⟨rfl, hrest⟩ := List.cons_prefix_cons.mp hms
        have hover : rest.filter Move.isCommand = [] := List.prefix_nil.mp hrest
        have hsilent : told rest = [] := by
          rw [← told_filter, hover]
          rfl
        rw [hsilent, Buffer.append_nil, show Move.flush.told = [] from rfl, Buffer.append_nil]
        exact (h.called hnext).run_on hover
      | cons chunk chunks =>
        obtain ⟨rfl, hrest⟩ := List.cons_prefix_cons.mp hms
        exact ih (h.feed hnext chunk) (by simpa [hnext] using hcount) hrest

/-- In the course of a response, the model never has two questions to answer. -/
theorem InCourse.outstanding_le_one {b : Buffer} {handed : List Segment} {w : World}
    (h : InCourse b handed w) : w.outstanding.length ≤ 1 := by
  rw [length_outstanding]
  rcases h.phase with hs | hd
  · have hflush : totalLoad FlushStage.calls w.flushes = 0 := by
      rcases hs.flush with ⟨-, hnone⟩ | ⟨-, stage, hone, hwaiting⟩
      · rw [hnone]
        rfl
      · rw [hone]
        simp [totalLoad, FlushStage.calls, hwaiting]
    have hworker : totalLoad WorkerStage.calls w.workers ≤ 1 := by
      rcases hs.solo with ⟨hnone, -⟩ | ⟨id, stage, hone, -⟩
      · rw [hnone]
        exact Nat.zero_le 1
      · rw [hone]
        exact Bool.toNat_le stage.isWaiting
    omega
  · rw [hd.workers]
    rcases hd.flush.2 with hnone | ⟨segment, hone⟩
    · rw [hnone]
      exact Nat.zero_le 1
    · rw [hone]
      exact Nat.le_refl 1

/-! ## What the receiver gets -/

/-- In the course of a response, the receiver gets what the model names. -/
theorem InCourse.cuesOf_step {b : Buffer} {handed : List Segment} {w : World}
    (h : InCourse b handed w) (hfree : w.session.Free) (m : Move) :
    cuesOf (w.step unfailing m).2 = named (answersOf (w.step unfailing m).2) := by
  have hworkers (id : Nat) (segment : Segment) (others : List Segment)
      (hm : (id, .waiting segment others) ∈ w.workers) : w.session.active = some id := by
    rcases h.phase with hphase | hphase
    · exact (hphase.active (lookup_of_mem h.sound.workers_nodup hm)).2.1
    · rw [hphase.workers] at hm
      cases hm
  have hflushes (id : Nat) (segment : Segment) (response : Nat)
      (hm : (id, .waiting segment response) ∈ w.flushes) : response = w.session.response := by
    rcases h.phase with hphase | hphase
    · rcases hphase.flush with ⟨-, hnone⟩ | ⟨-, stage, hone, hwaiting⟩
      · rw [hnone] at hm
        cases hm
      · rw [hone] at hm
        cases List.mem_singleton.mp hm
        cases hwaiting
    · rcases hphase.flush.2 with hnone | ⟨segment', hone⟩
      · rw [hnone] at hm
        cases hm
      · rw [hone] at hm
        cases List.mem_singleton.mp hm
        rfl
  rw [World.cuesOf_step hworkers hflushes]
  unfold named
  congr 1
  funext a
  exact (hfree.pass _).1

theorem InCourse.cuesOf_run {b : Buffer} {handed : List Segment} {w : World}
    (h : InCourse b handed w) (hnext : w.nextFlush = 0) (hfree : w.session.Free)
    {chunks : List Text} {ms : List Move}
    (hms : ms.filter Move.isCommand <+: chunks.map (Move.feed · true) ++ [.flush])
    (hplay : ∀ c length, .playback c length ∉ ms)
    (hclock : (w.session.clock :: ms.filterMap Move.time?).Pairwise (· ≤ ·)) :
    cuesOf (w.run unfailing ms).2 = named (answersOf (w.run unfailing ms).2) := by
  -- from the last move back, since what a move shows depends on the course up to it
  induction ms using List.reverseRecOn with
  | nil => rfl
  | append_singleton ms m ih =>
    rw [List.filter_append] at hms
    rw [List.filterMap_append, ← List.cons_append] at hclock
    have hbefore := (List.prefix_append _ _).trans hms
    have hsilent (c : Channel) (length : Millis) : .playback c length ∉ ms :=
      fun hm => hplay c length (List.mem_append_left [m] hm)
    have hforward := (List.pairwise_append.mp hclock).1
    have hstep := (h.run hnext hbefore).cuesOf_step (free_run hfree hsilent hforward) m
    rw [run_snoc, cuesOf_append, answersOf_append, ih hbefore hsilent hforward, hstep]
    exact List.flatMap_append.symm

/-! ## The schedule makes no difference -/

/-- A text is fed in any pieces and flushed in the end, and the worker, the model and the clock do
what they do at any time in between. At no moment are there two questions without an answer. When
the flush is over, the model was asked about the segments of the whole text in their order, about
the first one of each key, and of those about the long ones; the buffer is empty and nobody is at
work. If nothing holds cues back, the receiver got what the answers name. And the flush can always
be brought to its end. -/
theorem passages_do_not_depend_on_the_schedule (config : CueConfig)
    (hmin : 1 ≤ config.minSegmentChars) (clock : Millis) (chunks : List Text) (moves : List Move)
    (hmoves : moves.filter Move.isCommand = chunks.map (Move.feed · true) ++ [.flush]) :
    let whole : Buffer :=
      { text := chunks.flatten, minChars := config.minSegmentChars, keyChars := config.keyChars }
    let passages := (firstOfEachKey whole.segments).filter (config.minClassifyChars ≤ ·.size)
    let start := new config clock
    let last := start.run unfailing moves
    (∀ before, before <+: moves →
      (callsOf (start.run unfailing before).2).length =
          (answersOf (start.run unfailing before).2).length +
            (start.run unfailing before).1.outstanding.length ∧
        (start.run unfailing before).1.outstanding.length ≤ 1) ∧
      (last.1.flushes = [] →
        callsOf last.2 = passages.map (fun p => Classifier.question config p.text) ∧
          (answersOf last.2).length = passages.length ∧
          last.1.session.buffer.text = [] ∧ last.1.session.active = none ∧ last.1.workers = []) ∧
      ((∀ c, config.cooldown c = 0) → config.blockDuringPlayback = false →
        (∀ c length, .playback c length ∉ moves) →
        (clock :: moves.filterMap Move.time?).Pairwise (· ≤ ·) →
        cuesOf last.2 = named (answersOf last.2)) ∧
      ∃ more : List Move, (∀ m ∈ more, m.task?.isSome = true) ∧
        (last.1.run unfailing more).1.flushes = [] := by
  intro whole passages start last
  have hstart : InCourse start.session.buffer [] start :=
    ⟨sound_new config clock, exclusive_new config clock, .inl (streaming_new config hmin clock)⟩
  have hall : moves.filter Move.isCommand <+: chunks.map (Move.feed · true) ++ [.flush] :=
    ⟨[], by rw [List.append_nil, hmoves]⟩
  have hcourse := hstart.run rfl hall
  have htold : told moves = chunks.flatten := by
    rw [← told_filter, hmoves, told_append, told_feeds]
    exact List.append_nil _
  have hwhole : start.session.buffer.append (told moves) = whole := by
    rw [htold]
    rfl
  rw [hwhole, List.nil_append] at hcourse
  refine ⟨?_, ?_, ?_, ?_⟩
  · intro before hbefore
    have hprefix : before.filter Move.isCommand <+: chunks.map (Move.feed · true) ++ [.flush] := by
      rw [← hmoves]
      exact hbefore.filter Move.isCommand
    exact ⟨outstanding_run unfailing start before, (hstart.run rfl hprefix).outstanding_le_one⟩
  · intro hover
    have hcalled : last.1.nextFlush = 1 := by
      have hcount := nextFlush_run unfailing start moves
      have hone : moves.count .flush = 1 := by
        rw [← List.count_filter (p := Move.isCommand) rfl, hmoves, List.count_append]
        have hnone : (chunks.map (Move.feed · true)).count .flush = 0 := by
          rw [List.count_eq_zero]
          simp
        rw [hnone]
        rfl
      rw [hone] at hcount
      exact hcount
    have hdrained : Drained whole (segmentsOf last.2) last.1 := by
      rcases hcourse.phase with hs | hd
      · rcases hs.flush with ⟨hzero, -⟩ | ⟨-, stage, hone, -⟩
        · rw [hcalled] at hzero
          cases hzero
        · rw [hover] at hone
          cases hone
      · exact hd
    have hcalls : callsOf last.2 = passages.map fun p => Classifier.question config p.text := by
      rw [callsOf_run, hdrained.handed]
      apply questions_eq
      intro segment hsegment
      exact Buffer.trim_of_mem_segments (mem_of_mem_firstOfEachKey hsegment)
    have hanswers : (callsOf last.2).length = (answersOf last.2).length := by
      have hrun := outstanding_run unfailing start moves
      rw [length_outstanding, length_outstanding] at hrun
      rw [show (start.run unfailing moves).1.workers = [] from hdrained.workers,
        show (start.run unfailing moves).1.flushes = [] from hover] at hrun
      exact hrun
    refine ⟨hcalls, ?_, hdrained.empty, hdrained.active, hdrained.workers⟩
    have hlength := congrArg List.length hcalls
    rw [List.length_map] at hlength
    omega
  · intro hcooldown hblock hplay hclock
    exact hstart.cuesOf_run rfl (Session.free_new hcooldown hblock clock) hall hplay hclock
  · obtain ⟨more, htasks, -, hover⟩ := exists_end unfailing last.1
    exact ⟨more, htasks, hover⟩

/-- The second piece comes while the model has the first passage, and ends the second one. -/
theorem passages_of_two_pieces :
    let config : CueConfig := { gestures := [], expressions := [] }
    let moves : List Move :=
      [.feed "It rains here. It sn".toList true, .workerTurn 0, .feed "ows there.".toList true,
        .flush, .flushTurn 0, .workerAnswer 0 .crash, .flushTurn 0, .flushAnswer 0 .crash]
    callsOf ((new config 0).run unfailing moves).2 =
      [Classifier.question config "It rains here.".toList,
        Classifier.question config "It snows there.".toList] := by
  intro config moves
  have hspec := (passages_do_not_depend_on_the_schedule config (by decide) 0
    ["It rains here. It sn".toList, "ows there.".toList] moves rfl).2.1 (by decide +kernel)
  have hpassages : (firstOfEachKey (Buffer.segments
      { text := "It rains here. It snows there.".toList, minChars := 12, keyChars := 50 })).filter
        (5 ≤ ·.size) =
      [⟨"It rains here.".toList, "It rains here.".toList⟩,
        ⟨"It snows there.".toList, "It snows there.".toList⟩] := by
    decide +kernel
  rw [hspec.1]
  exact congrArg (List.map fun p => Classifier.question config p.text) hpassages

end World

end CueStream
