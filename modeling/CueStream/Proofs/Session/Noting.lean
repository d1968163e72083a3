-- What a session notes while text comes in. Of the segments with one key only
-- the first one counts, and it makes no difference how early the segments are
-- taken out of the buffer, or in how many goes.
import CueStream.Proofs.Segment.Passage
import CueStream.Proofs.Session.Turn

namespace CueStream

/-! ## The first segment of each key -/

/-- The segments without those whose key stands on one before them. -/
def firstOfEachKey : List Segment → List Segment
  | [] => []
  | segment :: rest => segment :: (firstOfEachKey rest).filter (·.key ≠ segment.key)

/-- The segments whose key is none of these. -/
def unseen (keys : List Text) (segments : List Segment) : List Segment :=
  segments.filter (·.key ∉ keys)

theorem unseen_nil (segments : List Segment) : unseen [] segments = segments := by
  unfold unseen
  rw [List.filter_eq_self]
  simp

theorem unseen_congr {keys keys' : List Text} (h : ∀ key, key ∈ keys ↔ key ∈ keys')
    (segments : List Segment) : unseen keys segments = unseen keys' segments := by
  unfold unseen
  simp only [h]

theorem unseen_cons (key : Text) (keys : List Text) (segments : List Segment) :
    unseen (key :: keys) segments = unseen keys (segments.filter (·.key ≠ key)) := by
  unfold unseen
  rw [List.filter_filter]
  apply List.filter_congr
  intro segment _
  simp [Bool.and_comm]

/-- A key that was seen takes nothing more away. -/
theorem unseen_filter_of_mem {key : Text} {keys : List Text} (h : key ∈ keys)
    (segments : List Segment) :
    unseen keys (segments.filter (·.key ≠ key)) = unseen keys segments := by
  unfold unseen
  rw [List.filter_filter]
  apply List.filter_congr
  intro segment _
  have hne : segment.key ∉ keys → segment.key ≠ key := by
    rintro hn rfl
    exact hn h
  by_cases hk : segment.key ∈ keys
  · simp [hk]
  · simp [hk, hne hk]

/-- Segments that come later count if their key was not there before. -/
theorem firstOfEachKey_append (a b : List Segment) :
    firstOfEachKey (a ++ b) =
      firstOfEachKey a ++ unseen (a.map Segment.key) (firstOfEachKey b) := by
  induction a with
  | nil =>
    rw [List.map_nil, unseen_nil]
    rfl
  | cons segment rest ih =>
    have hswap (l : List Segment) : (unseen (rest.map Segment.key) l).filter (·.key ≠ segment.key) =
        unseen (rest.map Segment.key) (l.filter (·.key ≠ segment.key)) := by
      unfold unseen
      rw [List.filter_filter, List.filter_filter]
      apply List.filter_congr
      intro x _
      rw [Bool.and_comm]
    simp only [List.cons_append, firstOfEachKey, List.map_cons]
    rw [ih, List.filter_append, hswap, unseen_cons]

theorem mem_of_mem_firstOfEachKey {segment : Segment} {segments : List Segment}
    (h : segment ∈ firstOfEachKey segments) : segment ∈ segments := by
  induction segments with
  | nil => cases h
  | cons first rest ih =>
    rcases List.mem_cons.mp h with rfl | h
    · exact List.mem_cons_self
    · exact List.mem_cons_of_mem first (ih (List.mem_filter.mp h).1)

namespace Session

/-- Segments that are long enough are noted if their key was not seen before, and their keys are
seen from then on. -/
theorem noteAll_spec (s : Session) {segments : List Segment}
    (h : ∀ segment ∈ segments, s.buffer.minChars ≤ segment.size) :
    (s.noteAll segments).2 = unseen s.seen (firstOfEachKey segments) ∧
      ∀ key, key ∈ (s.noteAll segments).1.seen ↔
        key ∈ s.seen ∨ key ∈ segments.map Segment.key := by
  induction segments generalizing s with
  | nil => exact ⟨rfl, by simp [noteAll]⟩
  | cons segment rest ih =>
    have hlong : ¬ segment.size < s.buffer.minChars :=
      Nat.not_lt_of_le (h segment List.mem_cons_self)
    have hrest (x : Segment) (hx : x ∈ rest) : s.buffer.minChars ≤ x.size :=
      h x (List.mem_cons_of_mem segment hx)
    by_cases hseen : segment.key ∈ s.seen
    · have hnote : s.note segment = (s, false) := by
        unfold note
        rw [if_pos (.inr (List.contains_iff_mem.mpr hseen))]
      obtain ⟨hfresh, hkeys⟩ := ih s hrest
      simp only [noteAll, hnote]
      refine ⟨?_, ?_⟩
      · have hdrop : unseen s.seen (firstOfEachKey (segment :: rest)) =
            unseen s.seen ((firstOfEachKey rest).filter (·.key ≠ segment.key)) := by
          unfold unseen
          rw [firstOfEachKey, List.filter_cons_of_neg (by simpa using hseen)]
        rw [hdrop, unseen_filter_of_mem hseen]
        exact hfresh
      · intro key
        rw [hkeys, List.map_cons, List.mem_cons]
        constructor
        · rintro (hk | hk)
          · exact .inl hk
          · exact .inr (.inr hk)
        · rintro (hk | rfl | hk)
          · exact .inl hk
          · exact .inl hseen
          · exact .inr hk
    · have hnote : s.note segment = ({ s with seen := segment.key :: s.seen }, true) := by
        unfold note
        rw [if_neg]
        rintro (hs | hs)
        · exact hlong hs
        · exact hseen (List.contains_iff_mem.mp hs)
      obtain ⟨hfresh, hkeys⟩ := ih { s with seen := segment.key :: s.seen } hrest
      simp only [noteAll, hnote]
      refine ⟨?_, ?_⟩
      · have hkeep : unseen s.seen (firstOfEachKey (segment :: rest)) =
            segment :: unseen s.seen ((firstOfEachKey rest).filter (·.key ≠ segment.key)) := by
          unfold unseen
          rw [firstOfEachKey, List.filter_cons_of_pos (by simpa using hseen)]
        rw [hkeep, ← unseen_cons]
        exact congrArg (segment :: ·) hfresh
      · intro key
        rw [hkeys, List.map_cons, List.mem_cons, List.mem_cons]
        constructor
        · rintro ((hk | hk) | hk)
          · exact .inr (.inl hk)
          · exact .inl hk
          · exact .inr (.inr hk)
        · rintro (hk | hk | hk)
          · exact .inl (.inr hk)
          · exact .inl (.inl hk)
          · exact .inr hk

end Session

/-! ## Segments of a buffer -/

namespace Buffer

theorem append_nil (b : Buffer) : b.append [] = b := by
  unfold append
  rw [List.append_nil]

theorem append_append (b : Buffer) (s t : Text) : (b.append s).append t = b.append (s ++ t) := by
  unfold append
  rw [List.append_assoc]

theorem trim_of_mem_segments {b : Buffer} {segment : Segment} (h : segment ∈ b.segments) :
    segment.text.trim = segment.text := by
  unfold segments at h
  rcases List.mem_append.mp h with h | h
  · obtain ⟨raw, -, hsegment⟩ := List.mem_filterMap.mp h
    exact trim_of_segment? hsegment
  · exact trim_of_segment? (Option.mem_toList.mp h)

/-- Where nothing is complete, all that there is to take out is the rest. -/
theorem segments_of_not_hasBoundary {b : Buffer} (h : b.hasBoundary = false) :
    b.segments = (b.segment? b.text).toList := by
  have hsplit : b.text.split = ([], b.text) := by
    apply Text.split_of_first?_eq_none
    unfold hasBoundary Text.hasGap at h
    exact Option.isSome_eq_false_iff.mp h |> Option.isNone_iff_eq_none.mp
  unfold segments takeCompleted completed flush
  rw [hsplit]
  rfl

end Buffer

/-! ## Noting what is taken out -/

/-- The segments that a worker has drawn and not handed over yet. -/
def WorkerStage.others : WorkerStage → List Segment
  | ready => []
  | waiting _ others => others

namespace Session

/-- How a session stands to which the text of `b` was fed: it has drawn some segments, which go on
with those of its buffer to make up the segments of the whole, whatever comes later; it has seen
their keys; and it has noted the first segment of each. -/
structure Tells (b : Buffer) (noted : List Segment) (s : Session) : Prop where
  minChars : 1 ≤ s.buffer.minChars
  drawn : ∃ drawn, (∀ more, (b.append more).segments = drawn ++ (s.buffer.append more).segments) ∧
    (∀ key, key ∈ s.seen ↔ key ∈ drawn.map Segment.key) ∧ noted = firstOfEachKey drawn

theorem tells_new (config : CueConfig) (h : 1 ≤ config.minSegmentChars) (clock : Millis) :
    Tells (new config clock).buffer [] (new config clock) := by
  refine ⟨h, [], ?_, ?_, rfl⟩
  · intro more
    rfl
  · intro key
    rfl

theorem Tells.congr {b : Buffer} {noted : List Segment} {s t : Session} (h : Tells b noted s)
    (hbuffer : t.buffer = s.buffer) (hseen : t.seen = s.seen) : Tells b noted t := by
  obtain ⟨hmin, drawn, hsegments, hkeys, hnoted⟩ := h
  rw [← hbuffer] at hmin hsegments
  rw [← hseen] at hkeys
  exact ⟨hmin, drawn, hsegments, hkeys, hnoted⟩

theorem Tells.pass {b : Buffer} {noted : List Segment} {s : Session} (h : Tells b noted s)
    (ts : List Trigger) : Tells b noted (s.pass ts).1 := by
  apply h.congr
  · rw [pass_eq]
  · rw [pass_eq]

theorem Tells.release {b : Buffer} {noted : List Segment} {s : Session} (h : Tells b noted s)
    (id : Nat) : Tells b noted (s.release id) := by
  unfold Session.release
  split
  · exact h.congr rfl rfl
  · exact h

/-- Feeding puts the text at the end of the whole. -/
theorem Tells.feed {b : Buffer} {noted : List Segment} {s : Session} (h : Tells b noted s)
    (chunk : Text) (canWork : Bool) :
    Tells (b.append chunk) noted (s.feed chunk canWork).session := by
  obtain ⟨hmin, drawn, hsegments, hkeys, hnoted⟩ := h
  refine ⟨?_, drawn, ?_, ?_, hnoted⟩
  · rw [buffer_feed]
    exact hmin
  · intro more
    rw [buffer_feed, Buffer.append_append, Buffer.append_append]
    exact hsegments (chunk ++ more)
  · rw [seen_feed]
    exact hkeys

/-- What is drawn was not noted before, and what was noted before is not drawn. -/
theorem Tells.draw {b : Buffer} {noted : List Segment} {s : Session} (h : Tells b noted s) :
    Tells b (noted ++ s.draw.2) s.draw.1 := by
  obtain ⟨hmin, drawn, hsegments, hkeys, hnoted⟩ := h
  have hlong (x : Segment) (hx : x ∈ s.buffer.takeCompleted.1) : s.buffer.minChars ≤ x.size :=
    Buffer.size_of_mem_completed hx
  obtain ⟨hfresh, hseen⟩ :=
    noteAll_spec { s with buffer := s.buffer.takeCompleted.2, cursor := 0 } hlong
  have hbuffer : s.draw.1.buffer = s.buffer.takeCompleted.2 := by rw [draw_eq]
  refine ⟨?_, drawn ++ s.buffer.takeCompleted.1, ?_, ?_, ?_⟩
  · rw [hbuffer]
    exact hmin
  · intro more
    rw [hsegments, hbuffer, Buffer.segments_append s.buffer hmin, List.append_assoc]
    rfl
  · intro key
    rw [List.map_append, List.mem_append, ← hkeys]
    exact hseen key
  · rw [firstOfEachKey_append, ← unseen_congr hkeys, hnoted]
    exact congrArg (firstOfEachKey drawn ++ ·) hfresh

/-- The active worker hands over what was noted, in order, and keeps the rest for later. -/
theorem Tells.work {b : Buffer} {handed batch : List Segment} {id : Nat} {s : Session}
    (h : Tells b (handed ++ batch) s) (ha : s.active = some id) :
    Tells b
      (handed ++ segmentsOf (s.work id batch).events ++
        ((s.work id batch).stage.map WorkerStage.others).getD [])
      (s.work id batch).session := by
  fun_induction Session.work id s batch generalizing handed with
  | case1 s segment others call hc =>
    have hevents : segmentsOf [Event.submitted (.worker id) segment, .asked (.worker id) call] =
        [segment] := rfl
    rw [hevents, List.append_assoc]
    exact h
  | case2 s segment others hc ha ih =>
    -- a segment that is too short for the model is handed over like the others
    have hrest : Tells b ((handed ++ [segment]) ++ others) s := by
      rw [List.append_assoc]
      exact h
    have := ih hrest ha
    unfold Turn.after
    rw [segmentsOf_append, ← List.append_assoc handed]
    exact this
  | case3 s segment others hc hn => exact absurd ha hn
  | case4 s hn => exact absurd ha hn
  | case5 s hn hb hlt ih =>
    rw [List.append_nil] at h
    apply ih h.draw
    rw [draw_eq]
    exact ha
  | case6 s hn hb =>
    have hevents : segmentsOf [Event.ended (.worker id)] = [] := rfl
    simp only [Option.map_none, Option.getD_none, hevents, List.append_nil] at h ⊢
    exact h.release id

/-- A flush that finds nothing complete hands over what was missing from the whole. -/
theorem Tells.finish {b : Buffer} {noted : List Segment} {s : Session} (h : Tells b noted s)
    (hb : s.buffer.hasBoundary = false) (id : Nat) :
    noted ++ segmentsOf (s.finish id).events = firstOfEachKey b.segments := by
  obtain ⟨hmin, drawn, hsegments, hkeys, hnoted⟩ := h
  have hwhole : b.segments = drawn ++ (s.buffer.segment? s.buffer.text).toList := by
    have := hsegments []
    rwa [Buffer.append_nil, Buffer.append_nil, Buffer.segments_of_not_hasBoundary hb] at this
  have hhanded : segmentsOf (s.finish id).events = s.drain.2.toList := by
    simp only [Session.finish]
    split
    · rename_i hnone
      rw [hnone]
      rfl
    · rename_i segment hsome
      rw [hsome]
      split <;> rfl
  rw [hhanded, hwhole, firstOfEachKey_append, ← hnoted, ← unseen_congr hkeys]
  apply congrArg (noted ++ ·)
  cases hsegment : s.buffer.segment? s.buffer.text with
  | none =>
    rw [drain_of_none hsegment]
    rfl
  | some segment =>
    have hlong : ∀ x ∈ [segment], s.buffer.minChars ≤ x.size := by
      intro x hx
      rw [List.mem_singleton.mp hx]
      exact Buffer.size_of_segment? hsegment
    -- draining notes the last segment as drawing would
    have hfresh := (noteAll_spec { s with buffer := s.buffer.clear, cursor := 0 } hlong).1
    rw [drain_of_some hsegment, Option.toList_some, ← hfresh]
    simp only [noteAll]
    split <;> rfl

end Session

end CueStream
