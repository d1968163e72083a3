-- What a session has noted, and the segments in the hands of its tasks. A segment
-- is noted when it is taken out of the buffer and handed over later, so what is
-- noted has to be followed through the hands of the tasks.
import CueStream.Proofs.Session.Acting
import CueStream.Proofs.Session.Noting

namespace CueStream

/-! ## What is noted -/

/-- The segment has no blanks at its ends, is long enough, and its key is how it starts. -/
structure Segment.IsProper (config : CueConfig) (segment : Segment) : Prop where
  long : config.minSegmentChars ≤ segment.size
  trimmed : segment.text.trim = segment.text
  key : segment.key = segment.text.take config.keyChars

/-- The segments are proper, and no two of them have the same key. -/
structure CueConfig.Unrepeated (config : CueConfig) (segments : List Segment) : Prop where
  proper : ∀ segment ∈ segments, segment.IsProper config
  keys : (segments.map Segment.key).Nodup

namespace Session

/-- How segments stand to a session that has noted them: they are not repetitions, and repetitions
of them will be recognised. -/
structure Noted (config : CueConfig) (segments : List Segment) (s : Session) : Prop where
  minChars : s.buffer.minChars = config.minSegmentChars
  keyChars : s.buffer.keyChars = config.keyChars
  unrepeated : config.Unrepeated segments
  seen : ∀ segment ∈ segments, segment.key ∈ s.seen

variable {config : CueConfig} {segments : List Segment} {s : Session}

theorem noted_new (config : CueConfig) (clock : Millis) : Noted config [] (new config clock) :=
  ⟨rfl, rfl, ⟨nofun, .nil⟩, nofun⟩

/-- The order of the segments does not matter. -/
theorem Noted.perm (h : Noted config segments s) {others : List Segment}
    (hperm : segments.Perm others) : Noted config others s := by
  refine ⟨h.minChars, h.keyChars, ⟨?_, ?_⟩, ?_⟩
  · exact fun segment hm => h.unrepeated.proper segment (hperm.mem_iff.mpr hm)
  · exact (hperm.map Segment.key).nodup_iff.mp h.unrepeated.keys
  · exact fun segment hm => h.seen segment (hperm.mem_iff.mpr hm)

theorem Noted.sublist (h : Noted config segments s) {others : List Segment}
    (hsub : others.Sublist segments) : Noted config others s := by
  refine ⟨h.minChars, h.keyChars, ⟨?_, ?_⟩, ?_⟩
  · exact fun segment hm => h.unrepeated.proper segment (hsub.subset hm)
  · exact h.unrepeated.keys.sublist (hsub.map Segment.key)
  · exact fun segment hm => h.seen segment (hsub.subset hm)

theorem Noted.congr (h : Noted config segments s) {t : Session}
    (hmin : t.buffer.minChars = s.buffer.minChars) (hkey : t.buffer.keyChars = s.buffer.keyChars)
    (hseen : t.seen = s.seen) : Noted config segments t := by
  refine ⟨hmin.trans h.minChars, hkey.trans h.keyChars, h.unrepeated, ?_⟩
  rw [hseen]
  exact h.seen

/-- A proper segment is noted with the others, unless it is a repetition. -/
theorem Noted.note (h : Noted config segments s) {segment : Segment}
    (hproper : segment.IsProper config) :
    Noted config (if (s.note segment).2 then segment :: segments else segments)
      (s.note segment).1 := by
  unfold Session.note
  split
  · exact h
  · rename_i hfresh
    refine ⟨h.minChars, h.keyChars, ⟨?_, ?_⟩, ?_⟩
    · exact List.forall_mem_cons.mpr ⟨hproper, h.unrepeated.proper⟩
    · refine List.nodup_cons.mpr ⟨?_, h.unrepeated.keys⟩
      intro hm
      obtain ⟨other, hother, hkey⟩ := List.mem_map.mp hm
      refine hfresh (.inr (List.contains_iff_mem.mpr ?_))
      rw [← hkey]
      exact h.seen other hother
    · refine List.forall_mem_cons.mpr ⟨List.mem_cons_self, ?_⟩
      exact fun other hother => List.mem_cons_of_mem _ (h.seen other hother)

theorem Noted.noteAll (h : Noted config segments s) {more : List Segment}
    (hproper : ∀ segment ∈ more, segment.IsProper config) :
    Noted config ((s.noteAll more).2 ++ segments) (s.noteAll more).1 := by
  induction more generalizing s segments with
  | nil => exact h
  | cons segment rest ih =>
    obtain ⟨hsegment, hrest⟩ := List.forall_mem_cons.mp hproper
    have hnoted := ih (h.note hsegment) hrest
    simp only [Session.noteAll]
    split
    · rename_i hfresh
      rw [if_pos hfresh] at hnoted
      exact hnoted.perm List.perm_middle
    · rename_i hfresh
      rwa [if_neg hfresh] at hnoted

/-- What a session makes of a passage is proper. -/
theorem Noted.proper (h : Noted config segments s) {raw : Text} {segment : Segment}
    (hsegment : s.buffer.segment? raw = some segment) : segment.IsProper config := by
  refine ⟨?_, Buffer.trim_of_segment? hsegment, ?_⟩
  · rw [← h.minChars]
    exact Buffer.size_of_segment? hsegment
  · rw [← h.keyChars]
    exact Buffer.key_of_segment? hsegment

theorem Noted.draw (h : Noted config segments s) :
    Noted config (s.draw.2 ++ segments) s.draw.1 := by
  have hproper : ∀ segment ∈ s.buffer.takeCompleted.1, segment.IsProper config := by
    intro segment hm
    obtain ⟨raw, -, hsegment⟩ := List.mem_filterMap.mp hm
    exact h.proper hsegment
  have hemptied : Noted config segments
      { s with buffer := s.buffer.takeCompleted.2, cursor := 0 } :=
    h.congr rfl rfl rfl
  exact hemptied.noteAll hproper

theorem Noted.drain (h : Noted config segments s) :
    Noted config (s.drain.2.toList ++ segments) s.drain.1 := by
  have hcleared : Noted config segments { s with buffer := s.buffer.clear, cursor := 0 } :=
    h.congr rfl rfl rfl
  cases hsegment : s.buffer.segment? s.buffer.text with
  | none =>
    rw [drain_of_none hsegment]
    exact hcleared
  | some segment =>
    have hnoted := hcleared.note (h.proper hsegment)
    rw [drain_of_some hsegment]
    dsimp only
    split
    · rename_i hfresh
      rwa [if_pos hfresh] at hnoted
    · rename_i hfresh
      rwa [if_neg hfresh] at hnoted

end Session

/-! ## Segments in the hands of tasks -/

/-- The segments that a worker has taken out and has not handed over. -/
def WorkerPlace.held : WorkerPlace → List Segment
  | going batch => batch
  | waiting _ others => others
  | told _ others => others
  | checking others => others
  | leaving => []

/-- The segment that a flush has taken out and has not handed over. -/
def FlushPlace.held : FlushPlace → List Segment
  | asking segment _ => [segment]
  | _ => []

/-- The segment that a flush has taken out of the response with this number and has not handed
over. -/
def FlushPlace.heldFor (response : Nat) : FlushPlace → List Segment
  | asking segment r => if r = response then [segment] else []
  | _ => []

/-- The segments in the hands of the active worker. -/
def WorkerPlace.heldBy (active : Option Nat) (workers : List (Nat × WorkerPlace)) : List Segment :=
  ((active.bind fun id => workers.lookup id).map held).getD []

/-- The segments in the hands of tasks, where `held` tells what is in the hands of one. -/
def inHands {Place : Type} (held : Place → List Segment) (entries : List (Nat × Place)) :
    List Segment :=
  entries.flatMap fun e => held e.2

/-- The segments that were handed over in a slice, and those that the task still holds after it. -/
def Session.Turn.passedOn {Place : Type} (held : Place → List Segment) (t : Session.Turn Place) :
    List Segment :=
  segmentsOf t.events ++ (t.stage.map held).getD []

namespace Session

variable {config : CueConfig} {handed rest : List Segment} {s : Session}

theorem Noted.release (h : Noted config handed s) (id : Nat) :
    Noted config handed (s.release id) := by
  unfold Session.release
  split
  · exact h.congr rfl rfl rfl
  · exact h

theorem Noted.pass (h : Noted config handed s) (ts : List Trigger) :
    Noted config handed (s.pass ts).1 := by
  rw [pass_eq]
  exact h.congr rfl rfl rfl

/-- The active worker hands over what it holds, or goes on holding it, and notes what it draws. -/
theorem Noted.workSlice {place : WorkerPlace} (h : Noted config (handed ++ place.held ++ rest) s)
    (fails : Trigger → Bool) {id : Nat} (ha : s.active = some id) :
    Noted config
      (handed ++ (s.workSlice fails id place).passedOn WorkerPlace.held ++ rest)
      (s.workSlice fails id place).session := by
  cases place with
  | going batch =>
    cases batch with
    | nil =>
      rw [Session.workSlice, if_neg (not_not_intro ha)]
      split
      · show Noted config (handed ++ s.draw.2 ++ rest) s.draw.1
        refine h.draw.perm ?_
        simp only [WorkerPlace.held, List.append_nil, List.append_assoc]
        exact List.perm_append_comm_assoc s.draw.2 handed rest
      · exact h.release id
    | cons segment others =>
      rw [Session.workSlice]
      split
      · exact h
      · exact h
  | waiting segment others => exact h
  | told i others =>
    have hpassed : Noted config (handed ++ others ++ rest) (s.pass i.triggers).1 :=
      h.pass i.triggers
    have hevents := segmentsOf_emit fails (.worker id) s i.triggers
    rw [Session.workSlice, if_neg (not_not_intro ha)]
    refine hpassed.sublist ?_
    refine .append (.append (.refl handed) ?_) (.refl rest)
    unfold Turn.passedOn
    dsimp only
    rw [hevents]
    split
    · exact .refl others
    · exact List.nil_sublist others
  | checking others =>
    rw [Session.workSlice, if_pos ha]
    exact h
  | leaving => exact h.release id

/-- A flush hands over what it holds, or goes on holding it, and notes what it takes out. -/
theorem Noted.flushSlice {place : FlushPlace} (h : Noted config (handed ++ place.held ++ rest) s)
    (fails : Trigger → Bool) (lives : Nat → Bool) (id : Nat) :
    Noted config
      (handed ++ (s.flushSlice fails lives id place).passedOn FlushPlace.held ++ rest)
      (s.flushSlice fails lives id place).session := by
  cases place with
  | ready =>
    rw [Session.flushSlice]
    split
    · exact h
    · exact h.congr rfl rfl rfl
  | joining worker =>
    rw [Session.flushSlice]
    split
    · exact h
    · exact h
  | draining =>
    have hdrained : Noted config (handed ++ s.drain.2.toList ++ rest) s.drain.1 := by
      refine h.drain.perm ?_
      simp only [FlushPlace.held, List.append_nil, List.append_assoc]
      exact List.perm_append_comm_assoc s.drain.2.toList handed rest
    rw [Session.flushSlice]
    split
    · rename_i hnone
      rwa [hnone] at hdrained
    · rename_i hsome
      rwa [hsome] at hdrained
  | asking segment response =>
    rw [Session.flushSlice]
    split
    · exact h
    · exact h
  | waiting segment response => exact h
  | told i response =>
    have hevents := (segmentsOf_resumeFlush fails s id i response).1
    have hsession := (resumeFlush_eq fails s id i response).2
    have hresumed : Noted config (handed ++ [] ++ rest)
        (s.resumeFlush fails id i response).session := by
      rw [hsession]
      exact h.congr rfl rfl rfl
    rw [Session.flushSlice]
    unfold Turn.passedOn
    dsimp only
    rw [hevents]
    exact hresumed

end Session

/-! ## The hands of all tasks -/

theorem WorkerPlace.heldBy_of_lookup {id : Nat} {place : WorkerPlace}
    {workers : List (Nat × WorkerPlace)} (h : workers.lookup id = some place) :
    heldBy (some id) workers = place.held := by
  unfold heldBy
  rw [Option.bind_some, h]
  rfl

/-- A worker that is not the active one does not count. -/
theorem WorkerPlace.heldBy_put {active : Option Nat} {id : Nat} (h : active ≠ some id)
    {v : Option WorkerPlace} {workers : List (Nat × WorkerPlace)} :
    heldBy active (put id v workers) = heldBy active workers := by
  cases active with
  | none => rfl
  | some k =>
    unfold heldBy
    rw [Option.bind_some, Option.bind_some, lookup_put_of_ne]
    rintro rfl
    exact h rfl

/-- The hands of the other tasks stay as they are when one is put in its next place. -/
theorem inHands_put {Place : Type} (held : Place → List Segment) {id : Nat} {old : Place}
    {entries : List (Nat × Place)} (h : entries.lookup id = some old) :
    ∃ rest, (inHands held entries).Perm (held old ++ rest) ∧
      ∀ v : Option Place, (inHands held (put id v entries)).Perm ((v.map held).getD [] ++ rest) := by
  induction entries with
  | nil => cases h
  | cons e rest ih =>
    obtain ⟨k, place⟩ := e
    by_cases hk : k = id
    · subst hk
      have hold : place = old := by simpa using h
      subst hold
      refine ⟨inHands held rest, .refl _, ?_⟩
      intro v
      rw [put, if_pos rfl]
      cases v <;> exact .refl _
    · rw [List.lookup_cons, show (id == k) = false by simpa using Ne.symm hk] at h
      obtain ⟨others, hbefore, hafter⟩ := ih h
      refine ⟨held place ++ others, ?_, ?_⟩
      · exact (hbefore.append_left (held place)).trans (List.perm_append_comm_assoc _ _ _)
      · intro v
        rw [put, if_neg hk]
        exact ((hafter v).append_left (held place)).trans (List.perm_append_comm_assoc _ _ _)

/-- What a flush has taken out of the response that is under way is all that it holds, unless
another response was. -/
theorem FlushPlace.heldFor_of_current {response : Nat} {place : FlushPlace}
    (h : ∀ r, place.response? = some r → r = response) : place.heldFor response = place.held := by
  cases place with
  | asking segment r => rw [heldFor, if_pos (h r rfl), held]
  | _ => rfl

theorem FlushPlace.heldFor_of_over {response r : Nat} {place : FlushPlace}
    (h : place.response? = some r) (hne : r ≠ response) : place.heldFor response = [] := by
  cases place with
  | asking segment r' =>
    cases h
    rw [heldFor, if_neg hne]
  | _ => rfl

theorem FlushPlace.heldFor_of_none {response : Nat} {place : FlushPlace}
    (h : place.response? = none) : place.heldFor response = [] := by
  cases place with
  | asking segment r => cases h
  | _ => rfl

end CueStream
