-- The cursor of a session is an offset of a character of its buffer, whoever fed,
-- drew, drained or reset it before, and in whatever order. So feeding always
-- finds the place where its search starts; and the search starts at an edge of a
-- word, because segments are only drawn together with the blanks behind them.
import CueStream.Proofs.Session.Joining
import CueStream.Proofs.Session.Play
import CueStream.Proofs.Session.Scanning

namespace CueStream

open Text Unicode

/-! ## No word reaches over a blank -/

theorem Text.not_isWordChar_of_blank {c : Char} (h : isBlank c = true) : isWordChar c = false := by
  have hapart : ∀ s ∈ blankSpans, ∀ r ∈ alphanumericSpans, s.2 < r.1 ∨ r.2 < s.1 := by
    decide +kernel
  unfold isBlank at h
  rw [within_eq_true_iff] at h
  obtain ⟨s, hs, hlow, hhigh⟩ := h
  have hletter : isAlphanumeric c = false := by
    rw [← Bool.not_eq_true]
    intro hc
    unfold isAlphanumeric at hc
    rw [within_eq_true_iff] at hc
    obtain ⟨r, hr, hrlow, hrhigh⟩ := hc
    rcases hapart s hs r hr with hlt | hlt <;> omega
  have hunderscore : c ≠ '_' := by
    rintro rfl
    revert s
    decide
  unfold isWordChar
  simp [hletter, hunderscore]

theorem Text.isEdge_of_blank {t : Text} (h : ∀ c ∈ t.getLast?, isBlank c = true) :
    isEdge t.getLast? = true := by
  cases hlast : t.getLast? with
  | none => rfl
  | some c => simp [isEdge, not_isWordChar_of_blank (h c hlast)]

theorem Text.isEdge_getLast?_append {a b : Text} (ha : isEdge a.getLast? = true)
    (hb : isEdge b.getLast? = true) : isEdge (a ++ b).getLast? = true := by
  rw [List.getLast?_append]
  cases hlast : b.getLast? with
  | none => exact ha
  | some c =>
    rw [hlast] at hb
    exact hb

/-! ## The running text -/

/-- The text that was fed since the buffer was emptied last: it is gone when a response ends by a
reset, and when a flush takes out the rest. -/
def runningText (text : Text) (fed? : Option (Text × Bool)) (resets : Bool)
    (events : List Event) : Text :=
  if resets || events.any (·.drained?.isSome) then [] else text ++ (fed?.map Prod.fst).getD []

/-- The running text at the end of some moves. -/
def World.runningText (w : World) (text : Text) : List (Beat Move) → Text
  | [] => text
  | b :: rest =>
    let (w, events) := w.step b.fails b.act
    w.runningText (CueStream.runningText text b.act.fed? b.act.isReset events) rest

/-- The running text at the end of some slices. -/
def Sliced.runningText (w : Sliced) (text : Text) : List (Beat Slice) → Text
  | [] => text
  | b :: rest =>
    let (w, events) := w.step b.fails b.act
    w.runningText (CueStream.runningText text b.act.fed? b.act.isReset events) rest

theorem runningText_of_quiet {events : List Event} (h : ∀ id, .drained id ∉ events) (text : Text)
    (fed? : Option (Text × Bool)) :
    runningText text fed? false events = text ++ (fed?.map Prod.fst).getD [] := by
  have hnone : events.any (·.drained?.isSome) = false := by
    rw [List.any_eq_false]
    intro e he hdrained
    cases e with
    | drained id => exact h id he
    | _ => cases hdrained
  unfold runningText
  rw [hnone]
  rfl

theorem not_drained_nil (id : Nat) : .drained id ∉ ([] : List Event) :=
  List.not_mem_nil

theorem runningText_of_drained {events : List Event} {id : Nat} (h : .drained id ∈ events)
    (text : Text) (fed? : Option (Text × Bool)) : runningText text fed? false events = [] := by
  have hsome : events.any (·.drained?.isSome) = true := List.any_eq_true.mpr ⟨_, h, rfl⟩
  unfold runningText
  rw [hsome]
  rfl

namespace Session

/-! ## What every turn keeps -/

/-- The buffer holds the end of the running text, from an edge of a word on; and the next search
begins at its start or goes on behind it. -/
structure Follows (text : Text) (s : Session) : Prop where
  suffix : ∃ gone, gone ++ s.buffer.text = text ∧ isEdge gone.getLast? = true
  cursor : s.cursor = 0 ∨ s.cursor = s.buffer.text.byteLength

theorem follows_empty {s : Session} (htext : s.buffer.text = []) (hcursor : s.cursor = 0) :
    Follows [] s :=
  ⟨⟨[], htext, rfl⟩, .inl hcursor⟩

variable {text : Text} {s : Session}

theorem Follows.congr (h : Follows text s) {t : Session} (hbuffer : t.buffer = s.buffer)
    (hcursor : t.cursor = s.cursor) : Follows text t := by
  obtain ⟨hsuffix, hends⟩ := h
  exact ⟨hbuffer ▸ hsuffix, hcursor ▸ hbuffer ▸ hends⟩

theorem Follows.feed (h : Follows text s) (chunk : Text) (canWork : Bool) :
    Follows (text ++ chunk) (s.feed chunk canWork).session := by
  by_cases hc : chunk = []
  · subst hc
    rw [feed_nil, List.append_nil]
    exact h
  · obtain ⟨gone, hgone, hedge⟩ := h.suffix
    refine ⟨⟨gone, ?_, hedge⟩, .inr (cursor_feed s hc canWork)⟩
    rw [buffer_feed, ← hgone, List.append_assoc]
    rfl

/-- A draw takes text off the front, with a blank at its end. -/
theorem Follows.draw (h : Follows text s) : Follows text s.draw.1 := by
  obtain ⟨gone, hgone, hedge⟩ := h.suffix
  obtain ⟨parts, hparts, -⟩ := exists_splits s.buffer.text
  obtain ⟨front, hfront, hblank⟩ := hparts.front
  have hdraw := draw_eq s
  refine ⟨⟨gone ++ front, ?_, ?_⟩, .inl ?_⟩
  · rw [hdraw, List.append_assoc]
    exact (congrArg (gone ++ ·) hfront).trans hgone
  · exact isEdge_getLast?_append hedge (isEdge_of_blank hblank)
  · rw [hdraw]

theorem Follows.release (h : Follows text s) (id : Nat) : Follows text (s.release id) := by
  unfold Session.release
  split
  · exact h.congr rfl rfl
  · exact h

theorem Follows.pass (h : Follows text s) (ts : List Trigger) : Follows text (s.pass ts).1 := by
  rw [pass_eq]
  exact h.congr rfl rfl

theorem follows_drain (s : Session) : Follows [] s.drain.1 := by
  rw [drain_eq]
  exact follows_empty rfl rfl

theorem follows_reset (s : Session) : Follows [] s.reset :=
  follows_empty rfl rfl

theorem Follows.work (h : Follows text s) (id : Nat) (batch : List Segment) :
    Follows text (s.work id batch).session :=
  work_keeps (fun _ _ h => h.draw) (fun _ k h => h.release k) h id batch

theorem Follows.resumeWork (h : Follows text s) (fails : Trigger → Bool) (id : Nat) (i : Intent)
    (others : List Segment) : Follows text (s.resumeWork fails id i others).session :=
  resumeWork_keeps (fun _ ts h => h.pass ts) (fun _ _ h => h.draw) (fun _ k h => h.release k) h
    fails id i others

theorem Follows.resumeFlush (h : Follows text s) (fails : Trigger → Bool) (id : Nat) (i : Intent)
    (response : Nat) : Follows text (s.resumeFlush fails id i response).session := by
  rw [(resumeFlush_eq fails s id i response).2]
  exact h.congr rfl rfl

/-- A turn that drains nothing and keeps the invariant. -/
theorem Follows.after (h : Follows text s) {events : List Event}
    (hevents : ∀ id, .drained id ∉ events) : Follows (runningText text none false events) s := by
  rw [runningText_of_quiet hevents]
  simpa using h

/-- A turn that drains nothing, and leaves the buffer and the cursor alone. -/
theorem Follows.still (h : Follows text s) {t : Session} (hbuffer : t.buffer = s.buffer)
    (hcursor : t.cursor = s.cursor) {events : List Event} (hevents : ∀ id, .drained id ∉ events) :
    Follows (runningText text none false events) t :=
  (h.congr hbuffer hcursor).after hevents

theorem Follows.finish (s : Session) (id : Nat) (text : Text) :
    Follows (runningText text none false (s.finish id).events) (s.finish id).session := by
  rw [runningText_of_drained (World.drained_mem_finish id s), finish_session]
  exact follows_drain s

theorem Follows.startFlush (h : Follows text s) (lives : Nat → Bool) (id : Nat) :
    Follows (runningText text none false (s.startFlush lives id).events)
      (s.startFlush lives id).session := by
  rcases startFlush_cases lives id s with ⟨worker, -, -, hstart⟩ | ⟨-, hstart⟩
  · rw [hstart]
    exact h.still (by rfl) (by rfl) not_drained_nil
  · rw [hstart]
    exact Follows.finish _ id text

/-! ## What every slice keeps -/

theorem Follows.workSlice (h : Follows text s) (fails : Trigger → Bool) (id : Nat)
    (place : WorkerPlace) : Follows text (s.workSlice fails id place).session :=
  workSlice_keeps (fun _ ts h => h.pass ts) (fun _ _ h => h.draw) (fun _ k h => h.release k) h
    fails id place

theorem not_drained_workSlice (fails : Trigger → Bool) (worker : Nat) (s : Session)
    (place : WorkerPlace) (id : Nat) : .drained id ∉ (s.workSlice fails worker place).events := by
  cases place with
  | going batch =>
    cases batch with
    | nil =>
      rw [Session.workSlice]
      split
      · simp
      · split <;> simp
    | cons segment others =>
      rw [Session.workSlice]
      split <;> simp
  | waiting segment others => simp [Session.workSlice]
  | told i others =>
    rw [Session.workSlice]
    split
    · simp
    · exact not_drained_emit fails (.worker worker) s i.triggers id
  | checking others => simp [Session.workSlice]
  | leaving => simp [Session.workSlice]

theorem Follows.flushSlice (h : Follows text s) (fails : Trigger → Bool) (lives : Nat → Bool)
    (id : Nat) (place : FlushPlace) :
    Follows (runningText text none false (s.flushSlice fails lives id place).events)
      (s.flushSlice fails lives id place).session := by
  cases place with
  | ready =>
    rw [Session.flushSlice]
    split
    · exact h.after not_drained_nil
    · exact h.still (by rfl) (by rfl) not_drained_nil
  | joining worker => exact h.after not_drained_nil
  | draining =>
    have hdrain := follows_drain s
    rw [Session.flushSlice]
    split
    · rename_i drained hnone
      rw [hnone] at hdrain
      rw [runningText_of_drained List.mem_cons_self]
      exact hdrain
    · rename_i drained segment hsome
      rw [hsome] at hdrain
      rw [runningText_of_drained List.mem_cons_self]
      exact hdrain
  | asking segment response =>
    rw [Session.flushSlice]
    split
    · exact h.after (by simp)
    · exact h.after (by simp)
  | waiting segment response => exact h.after not_drained_nil
  | told i response =>
    exact (h.resumeFlush fails id i response).after
      fun k => not_drained_resumeFlush fails s id i response k

/-! ## What the search of a piece finds -/

/-- Feeding the piece finds the cursor and the start of the search between two characters. The piece
is searched, with what of the running text stands in front of it from an edge of a word on. -/
structure Searches (text : Text) (s : Session) (chunk : Text) : Prop where
  cursor : ((s.buffer.text ++ chunk).splitAtByte? s.cursor).isSome = true
  search : ∃ gone before searched,
    (s.buffer.text ++ chunk).splitAtByte? (scanStart (s.buffer.text ++ chunk) s.cursor) =
        some (before, searched) ∧
      unscanned (s.buffer.text ++ chunk) s.cursor = searched ∧ chunk <:+ searched ∧
      gone ++ before ++ searched = text ++ chunk ∧ Apart (gone ++ before) searched

/-- The cursor is an offset of a character of the buffer, and stays one in front of every piece. -/
structure Safe (text : Text) (s : Session) : Prop where
  within : s.cursor ≤ s.buffer.text.byteLength
  between : (s.buffer.text.splitAtByte? s.cursor).isSome = true
  searches : ∀ chunk, Searches text s chunk

theorem Follows.searches (h : Follows text s) (chunk : Text) : Searches text s chunk := by
  obtain ⟨⟨gone, hgone, hedge⟩, hcursor⟩ := h
  rcases hcursor with hzero | hend
  · rw [← hgone]
    refine ⟨?_, gone, [], s.buffer.text ++ chunk, ?_, ?_, List.suffix_append _ _, by simp, ?_⟩
    · rw [hzero, splitAtByte?_zero]
      rfl
    · rw [hzero, scanStart_zero, splitAtByte?_zero]
    · rw [hzero, unscanned_zero]
    · rw [List.append_nil]
      exact .inl hedge
  · obtain ⟨front, hfront, hapart⟩ := exists_apart_continued s.buffer.text chunk
    refine ⟨?_, gone, front, continued s.buffer.text chunk ++ chunk, ?_, ?_, ?_, ?_, ?_⟩
    · rw [hend, splitAtByte?_append]
      rfl
    · rw [hend, splitAtByte?_scanStart hfront]
    · rw [hend, unscanned_append]
    · exact List.suffix_append _ _
    · rw [← hgone, List.append_assoc, ← List.append_assoc front, hfront, List.append_assoc]
    · exact hapart.imp_left (isEdge_getLast?_append hedge)

theorem Follows.safe (h : Follows text s) : Safe text s := by
  have hbetween : (s.buffer.text.splitAtByte? s.cursor).isSome = true := by
    have hcut := (h.searches []).cursor
    rwa [List.append_nil] at hcut
  refine ⟨?_, hbetween, h.searches⟩
  rcases h.cursor with hzero | hend
  · rw [hzero]
    exact Nat.zero_le _
  · exact Nat.le_of_eq hend

end Session

/-! ## Every move and every slice -/

namespace World

theorem follows_step {text : Text} {w : World} (h : w.session.Follows text)
    (fails : Trigger → Bool) (m : Move) :
    Session.Follows (CueStream.runningText text m.fed? m.isReset (w.step fails m).2)
      (w.step fails m).1.session := by
  have hquiet (hm : ∀ id, m ≠ .flushTurn id) : ∀ id, .drained id ∉ (w.step fails m).2 :=
    fun id hd => hm id (due_of_drained hd).1
  have hs := step_spec fails w m
  generalize w.step fails m = r at hs hquiet ⊢
  cases hs with
  | still m htask =>
    obtain ⟨hfed, hreset⟩ := Move.plain_of_task htask
    rw [hfed, hreset]
    exact h.after not_drained_nil
  | feed chunk canWork =>
    rw [show Move.isReset (.feed chunk canWork) = false from rfl,
      runningText_of_quiet (hquiet nofun)]
    exact h.feed chunk canWork
  | flush => exact h.after (hquiet nofun)
  | workerTurn hl => exact (h.work _ _).after (hquiet nofun)
  | workerAnswer a hl => exact (h.resumeWork fails _ _ _).after (hquiet nofun)
  | flushTurn hl hstage => exact h.startFlush w.lives _
  | flushAnswer a hl => exact (h.resumeFlush fails _ _ _).after (hquiet nofun)
  | reset => exact Session.follows_reset w.session
  | fullReset => exact Session.follows_empty rfl rfl
  | playback c length => exact h.still (by rfl) (by rfl) (hquiet nofun)
  | setClock time => exact h.still (by rfl) (by rfl) (hquiet nofun)

theorem follows_play {text : Text} {w : World} (h : w.session.Follows text)
    (beats : List (Beat Move)) : (w.play beats).1.session.Follows (w.runningText text beats) := by
  induction beats generalizing w text with
  | nil => exact h
  | cons b rest ih => exact ih (follows_step h b.fails b.act)

end World

namespace Sliced

theorem follows_step {text : Text} {w : Sliced} (h : w.session.Follows text)
    (fails : Trigger → Bool) (x : Slice) :
    Session.Follows (CueStream.runningText text x.fed? x.isReset (w.step fails x).2)
      (w.step fails x).1.session := by
  have hs := step_spec fails w x
  generalize w.step fails x = r at hs ⊢
  cases hs with
  | still x htask =>
    obtain ⟨hfed, hreset⟩ := Slice.plain_of_task htask
    rw [hfed, hreset]
    exact h.after not_drained_nil
  | feed chunk canWork =>
    have hquiet (id : Nat) : .drained id ∉ (w.step fails (.feed chunk canWork)).2 :=
      fun hd => nomatch (World.due_of_drained (w := { session := w.session })
        (m := .feed chunk canWork) hd).1
    rw [show Slice.isReset (.feed chunk canWork) = false from rfl, runningText_of_quiet hquiet]
    exact h.feed chunk canWork
  | flush => exact h.after not_drained_nil
  | workerTurn hl => exact (h.workSlice fails _ _).after (Session.not_drained_workSlice _ _ _ _)
  | flushTurn hl => exact h.flushSlice fails w.lives _ _
  | workerAnswer a hl => exact h.after (by simp [afterWorker])
  | flushAnswer a hl => exact h.after (by simp [afterFlush])
  | reset => exact Session.follows_reset w.session
  | resetGates => exact h.still (by rfl) (by rfl) not_drained_nil
  | playback c length => exact h.still (by rfl) (by rfl) not_drained_nil
  | setClock time => exact h.still (by rfl) (by rfl) not_drained_nil

theorem follows_play {text : Text} {w : Sliced} (h : w.session.Follows text)
    (beats : List (Beat Slice)) : (w.play beats).1.session.Follows (w.runningText text beats) := by
  induction beats generalizing w text with
  | nil => exact h
  | cons b rest ih => exact ih (follows_step h b.fails b.act)

end Sliced

theorem Session.follows_new (config : CueConfig) (clock : Millis) :
    Follows [] (new config clock) :=
  follows_empty rfl rfl

/-- In every run, move by move or slice by slice and with whatever receiver, the cursor is an offset
of a character of the buffer. Whatever piece is fed next, the text is cut at the cursor and at the
start of the search, and no word of the running text reaches over that start. -/
theorem World.the_cursor_never_leaves_the_text (config : CueConfig) (clock : Millis) :
    (∀ beats : List (Beat Move),
        ((new config clock).play beats).1.session.Safe
          ((new config clock).runningText [] beats)) ∧
      ∀ beats : List (Beat Slice),
        ((Sliced.new config clock).play beats).1.session.Safe
          ((Sliced.new config clock).runningText [] beats) := by
  have hnew := Session.follows_new config clock
  refine ⟨?_, ?_⟩
  · intro beats
    exact (follows_play (w := new config clock) hnew beats).safe
  · intro beats
    exact (Sliced.follows_play (w := Sliced.new config clock) hnew beats).safe

end CueStream
