-- The place of the active worker. It is taken exactly as long as a worker is at
-- work that no reset has revoked, whoever breaks down and whenever resets come.
-- So it is free again when a worker has broken down, and the next piece of text
-- that leaves a boundary finds a new one.
import CueStream.Proofs.Session.Boundary
import CueStream.Proofs.Session.Play
import Mathlib.Data.List.Induction

namespace CueStream

/-! ## What happened and still stands -/

section Stands

variable {Act : Type} {undoes : Act → Bool} {P : List Act → Act → Prop}

/-- It happened, and nothing that came after that undoes it. -/
def Stands (undoes : Act → Bool) (P : List Act → Act → Prop) (acts : List Act) : Prop :=
  ∃ before act after, acts = before ++ act :: after ∧ P before act ∧ ∀ a ∈ after, undoes a = false

theorem not_stands_nil : ¬ Stands undoes P [] := by
  rintro ⟨before, act, after, h, -⟩
  simp at h

theorem stands_snoc (acts : List Act) (a : Act) :
    Stands undoes P (acts ++ [a]) ↔ P acts a ∨ (undoes a = false ∧ Stands undoes P acts) := by
  constructor
  · rintro ⟨before, act, after, h, hP, hafter⟩
    rcases List.eq_nil_or_concat after with rfl | ⟨earlier, last, rfl⟩
    · obtain ⟨hacts, hlast⟩ := List.append_inj' h rfl
      rw [hacts, List.cons.inj hlast |>.1]
      exact .inl hP
    · have hsplit : acts ++ [a] = (before ++ act :: earlier) ++ [last] := by simpa using h
      obtain ⟨hacts, hlast⟩ := List.append_inj' hsplit rfl
      have hundoes (b : Act) (hb : b ∈ earlier ++ [last]) : undoes b = false :=
        hafter b (by simpa using hb)
      refine .inr ⟨?_, before, act, earlier, hacts, hP, ?_⟩
      · rw [List.cons.inj hlast |>.1]
        exact hundoes last (List.mem_append_right _ List.mem_cons_self)
      · intro b hb
        exact hundoes b (List.mem_append_left _ hb)
  · rintro (hP | ⟨ha, before, act, after, rfl, hP, hafter⟩)
    · exact ⟨acts, a, [], rfl, hP, by simp⟩
    · refine ⟨before, act, after ++ [a], by simp, hP, ?_⟩
      intro b hb
      rcases List.mem_append.mp hb with hb | hb
      · exact hafter b hb
      · rw [List.mem_singleton.mp hb]
        exact ha

end Stands

/-- Something is fed that is not empty. -/
def Speaks (fed? : Option (Text × Bool)) : Prop :=
  ∃ chunk canWork, fed? = some (chunk, canWork) ∧ chunk ≠ []

theorem not_speaks_none : ¬ Speaks none := by
  rintro ⟨chunk, canWork, h, -⟩
  cases h

/-- Something that is not empty was fed, and no reset came after that. -/
def FedSince {Act : Type} (fed? : Act → Option (Text × Bool)) (resets : Act → Bool)
    (beats : List (Beat Act)) : Prop :=
  Stands (fun b => resets b.act) (fun _ b => Speaks (fed? b.act)) beats

/-- The worker that is started when this is fed. -/
def Session.hires? (s : Session) (fed? : Option (Text × Bool)) : Option Nat :=
  fed?.bind fun fed => (s.feed fed.1 fed.2).worker

/-- The worker was started in one of these moves, and no reset has revoked it since. -/
def World.Unrevoked (w : World) (beats : List (Beat Move)) (id : Nat) : Prop :=
  Stands (fun b => b.act.isReset)
    (fun before b => (w.play before).1.session.hires? b.act.fed? = some id) beats

/-- The worker was started in one of these slices, and no reset has revoked it since. -/
def Sliced.Unrevoked (w : Sliced) (beats : List (Beat Slice)) (id : Nat) : Prop :=
  Stands (fun b => b.act.isReset)
    (fun before b => (w.play before).1.session.hires? b.act.fed? = some id) beats

/-- The worker is about to look for complete segments, and will find none. -/
def Sliced.LooksInVain (w : Sliced) (x : Slice) (id : Nat) : Prop :=
  x = .workerTurn id ∧ w.workers.lookup id = some (.going []) ∧
    w.session.buffer.hasBoundary = false

/-- In one of these slices the worker looked for complete segments and found none. That is how it
gives up its place. It only has to leave then. -/
def Sliced.Finished (w : Sliced) (beats : List (Beat Slice)) (id : Nat) : Prop :=
  Stands (fun _ => false) (fun before b => (w.play before).1.LooksInVain b.act id) beats

/-! ## The place in one step -/

namespace Session

theorem started_feed (s : Session) (chunk : Text) (canWork : Bool) :
    (s.feed chunk canWork).session.started = true ↔
      Speaks (some (chunk, canWork)) ∨ s.started = true := by
  by_cases hc : chunk = []
  · subst hc
    have hsilent : ¬ Speaks (some ([], canWork)) := by
      rintro ⟨chunk, canWork', h, hne⟩
      cases h
      exact hne rfl
    simp only [feed_nil, hsilent, false_or]
  · have hspeaks : Speaks (some (chunk, canWork)) := ⟨chunk, canWork, rfl, hc⟩
    have hheard : (s.heard chunk).started = true := by rw [heard_eq]
    have hstarted : (s.feed chunk canWork).session.started = true := by
      rcases feed_cases s hc canWork with ⟨hs, -⟩ | ⟨hs, -⟩
      · rw [hs]
        exact hheard
      · rw [hs]
        exact hheard
    simp only [hstarted, hspeaks, true_or]

/-- What the turn or the slice of a worker does to the place: a worker that was revoked leaves it
alone, the active one keeps it and is there, or gives it up. It is gone then, or only has to
leave (`vain`). -/
inductive Places {Stage : Type} (id : Nat) (vain : Prop) (s : Session) (t : Turn Stage) : Prop
  | revoked (h : s.active ≠ some id) (hsession : t.session = s)
  | stays (h : s.active = some id) (hactive : t.session.active = some id)
      (hawaited : t.session.awaited = s.awaited) (hstage : t.stage.isSome = true)
  | gives (h : s.active = some id) (hactive : t.session.active = none)
      (hawaited : t.session.awaited = none) (hstage : t.stage = none ∨ vain)

namespace Places

variable {Stage : Type} {id k : Nat} {vain : Prop} {s : Session} {t : Turn Stage}

theorem active_before (h : Places id vain s t) (hk : t.session.active = some k) :
    s.active = some k := by
  cases h with
  | revoked _ hsession => rwa [hsession] at hk
  | stays ha hactive _ _ => rwa [ha, ← hactive]
  | gives _ hactive _ _ =>
    rw [hactive] at hk
    cases hk

/-- Whoever was active still is, but for the worker that gives up its place. -/
theorem active_after (h : Places id vain s t) (hk : s.active = some k)
    (hstays : k = id → t.stage.isSome = true) : t.session.active = some k ∨ (k = id ∧ vain) := by
  cases h with
  | revoked _ hsession =>
    rw [hsession]
    exact .inl hk
  | stays ha hactive _ _ =>
    rw [hactive, ← ha]
    exact .inl hk
  | gives ha _ _ hstage =>
    have hid : k = id := Option.some.inj (hk.symm.trans ha)
    rcases hstage with hstage | hvain
    · have hthere := hstays hid
      rw [hstage] at hthere
      cases hthere
    · exact .inr ⟨hid, hvain⟩

/-- A worker that is active after its turn is there. -/
theorem stage (h : Places id vain s t) (hk : t.session.active = some id) :
    t.stage.isSome = true := by
  have hbefore := h.active_before hk
  cases h with
  | revoked ha _ => exact absurd hbefore ha
  | stays _ _ _ hstage => exact hstage
  | gives _ hactive _ _ =>
    rw [hactive] at hk
    cases hk

/-- Only the active worker is to be waited for, as before. -/
theorem awaited (h : Places id vain s t) (hs : ∀ k, s.awaited = some k → s.active = some k)
    (hk : t.session.awaited = some k) : t.session.active = some k := by
  cases h with
  | revoked _ hsession =>
    rw [hsession] at hk ⊢
    exact hs k hk
  | stays ha hactive hawaited _ =>
    rw [hawaited] at hk
    rw [hactive, ← ha]
    exact hs k hk
  | gives _ _ hawaited _ =>
    rw [hawaited] at hk
    cases hk

end Places

theorem Worked.places {id : Nat} {s : Session} {t : Turn WorkerStage} (h : Worked id s t) :
    Places id False s t := by
  cases h with
  | revoked ha hsession _ => exact .revoked ha hsession
  | asks ha hactive hawaited hstage =>
    exact .stays ha hactive hawaited (Option.isSome_of_eq_some hstage)
  | ends ha hactive hawaited hstage => exact .gives ha hactive hawaited (.inl hstage)

theorem WorkSliced.places {fails : Trigger → Bool} {id : Nat} {s : Session} {place : WorkerPlace}
    {t : Turn WorkerPlace} {vain : Prop} (h : WorkSliced fails id s place t)
    (hvain : place = .going [] → s.buffer.hasBoundary = false → vain) : Places id vain s t := by
  have hreleased (ha : s.active = some id) :
      (s.release id).active = none ∧ (s.release id).awaited = none := by
    unfold release
    rw [if_pos ha]
    exact ⟨rfl, rfl⟩
  cases h with
  | revoked ha hsession => exact .revoked ha hsession
  | stays ha hactive hawaited hstage _ =>
    exact .stays ha hactive hawaited (Option.isSome_of_eq_some hstage)
  | vain ha hplace hboundary hsession _ =>
    rw [← hsession] at hreleased
    exact .gives ha (hreleased ha).1 (hreleased ha).2 (.inr (hvain hplace hboundary))
  | left ha _ hsession hstage =>
    rw [← hsession] at hreleased
    exact .gives ha (hreleased ha).1 (hreleased ha).2 (.inl hstage)

/-- A worker that looks for segments in vain is not the active one afterwards. -/
theorem active_workSlice_of_vain (fails : Trigger → Bool) {id : Nat} {s : Session}
    {place : WorkerPlace} (hplace : place = .going []) (hb : s.buffer.hasBoundary = false) :
    (s.workSlice fails id place).session.active ≠ some id := by
  subst hplace
  rw [workSlice]
  split
  · assumption
  · rw [if_neg (by simp [hb])]
    exact s.active_release id

end Session

/-! ## The place in every run -/

/-- How the place of the active worker stands to the workers that are there. `P` are those that no
reset has revoked, `V` those that have given up their place, and `fed` tells whether something was
fed since the last reset. -/
structure Held {Stage : Type} (P V : Nat → Prop) (fed : Prop) (s : Session)
    (workers : List (Nat × Stage)) : Prop where
  numbered : Numbered s.nextWorker workers
  active : ∀ id, s.active = some id → P id ∧ (workers.lookup id).isSome = true
  lives : ∀ id, P id → (workers.lookup id).isSome = true → s.active = some id ∨ V id
  gone : ∀ id, V id → id < s.nextWorker ∧ s.active ≠ some id
  awaited : ∀ id, s.awaited = some id → s.active = some id
  started : s.started = true ↔ fed
  busy : s.active.isSome = true → s.started = true

/-- In a new session there is nobody. -/
theorem held_new {Stage : Type} {P V : Nat → Prop} {fed : Prop} (config : CueConfig)
    (clock : Millis) (hP : ∀ id, ¬ P id) (hV : ∀ id, ¬ V id) (hfed : ¬ fed) :
    Held P V fed (Session.new config clock) ([] : List (Nat × Stage)) := by
  refine ⟨.nil, ?_, ?_, ?_, ?_, ?_, ?_⟩
  · intro id ha
    cases ha
  · intro id h
    exact absurd h (hP id)
  · intro id h
    exact absurd h (hV id)
  · intro id ha
    cases ha
  · refine ⟨?_, fun h => absurd h hfed⟩
    intro hs
    cases hs
  · intro ha
    cases ha

namespace Held

variable {Stage : Type} {P V P' V' : Nat → Prop} {fed fed' : Prop} {s : Session}
  {workers : List (Nat × Stage)}

theorem congr (h : Held P V fed s workers) (hP : ∀ id, P' id ↔ P id) (hV : ∀ id, V' id ↔ V id)
    (hfed : fed' ↔ fed) : Held P' V' fed' s workers := by
  rw [funext fun id => propext (hP id), funext fun id => propext (hV id), propext hfed]
  exact h

/-- A change of the session that moves nobody. -/
theorem withSession (h : Held P V fed s workers) {t : Session} (hplaces : s.SamePlaces t)
    (hstarted : t.started = true ↔ fed') (hbusy : s.started = true → t.started = true) :
    Held P V fed' t workers := by
  refine ⟨?_, ?_, ?_, ?_, ?_, hstarted, ?_⟩
  · exact hplaces.nextWorker ▸ h.numbered
  · exact hplaces.active ▸ h.active
  · exact hplaces.active ▸ h.lives
  · exact hplaces.nextWorker ▸ hplaces.active ▸ h.gone
  · exact hplaces.active ▸ hplaces.awaited ▸ h.awaited
  · intro ha
    exact hbusy (h.busy (hplaces.active ▸ ha))

/-- A reset revokes everybody. -/
theorem reset (h : Held P V fed s workers) : Held (fun _ => False) V False s.reset workers := by
  refine ⟨h.numbered, ?_, ?_, ?_, ?_, ?_, ?_⟩
  · intro id ha
    cases ha
  · intro id hP
    exact hP.elim
  · intro id hV
    refine ⟨(h.gone id hV).1, ?_⟩
    intro ha
    cases ha
  · intro id ha
    cases ha
  · refine ⟨?_, False.elim⟩
    intro hs
    cases hs
  · intro ha
    cases ha

theorem hired (h : Held P V fed s workers) (hidle : s.active = none) {t : Session}
    (hnext : t.nextWorker = s.nextWorker) (hstarted : t.started = true) (hfed : fed')
    (stage : Stage) :
    Held (fun id => some s.nextWorker = some id ∨ P id) V fed' t.hired
      (workers ++ [(s.nextWorker, stage)]) := by
  have hself : (workers ++ [(s.nextWorker, stage)]).lookup s.nextWorker = some stage := by
    rw [List.lookup_append, h.numbered.lookup_next]
    simp
  have hactive : t.hired.active = some s.nextWorker := congrArg some hnext
  refine ⟨hnext ▸ h.numbered.concat stage, ?_, ?_, ?_, fun id ha => ha,
    ⟨fun _ => hfed, fun _ => hstarted⟩, fun _ => hstarted⟩
  · intro id ha
    rw [hactive] at ha
    cases ha
    exact ⟨.inl rfl, Option.isSome_of_eq_some hself⟩
  · intro id hP hl
    by_cases hid : id = s.nextWorker
    · subst hid
      exact .inl hactive
    · -- an older worker: the place was free, so it had given it up
      have hne : (id == s.nextWorker) = false := by simpa using hid
      have hold : (workers.lookup id).isSome = true := by
        rw [List.lookup_append, List.lookup_cons, hne] at hl
        simpa using hl
      have hP : P id := hP.resolve_left fun he => hid (Option.some.inj he).symm
      rcases h.lives id hP hold with ha | hV
      · rw [hidle] at ha
        cases ha
      · exact .inr hV
  · intro id hV
    have hlt := (h.gone id hV).1
    refine ⟨?_, ?_⟩
    · show id < t.nextWorker + 1
      rw [hnext]
      exact Nat.lt_succ_of_lt hlt
    · rw [hactive]
      intro ha
      exact Nat.lt_irrefl _ (Option.some.inj ha ▸ hlt)

theorem feed (h : Held P V fed s workers) (chunk : Text) (canWork : Bool) (stage : Stage) :
    Held (fun id => s.hires? (some (chunk, canWork)) = some id ∨ P id) V
      (Speaks (some (chunk, canWork)) ∨ fed) (s.feed chunk canWork).session
      (workers ++ ((s.feed chunk canWork).worker.map fun id => (id, stage)).toList) := by
  have hstarted := s.started_feed chunk canWork
  have hhires : s.hires? (some (chunk, canWork)) = (s.feed chunk canWork).worker := rfl
  rw [hhires]
  rcases s.feed_places chunk canWork with ⟨hworker, hplaces⟩ | ⟨hworker, hidle, hsession⟩
  · rw [hworker, Option.map_none, Option.toList_none, List.append_nil]
    refine (h.withSession hplaces ?_ ?_).congr (by simp) (fun _ => .rfl) .rfl
    · rw [hstarted, h.started]
    · exact fun hs => hstarted.mpr (.inr hs)
  · rw [hworker, Option.map_some, Option.toList_some, hsession]
    rw [hsession] at hstarted
    have hheard : (s.heard chunk).started = true := by rw [Session.heard_eq]
    refine h.hired hidle (Session.samePlaces_heard s chunk).nextWorker hheard ?_ stage
    rw [← h.started]
    exact hstarted.mp hheard

/-- The turn or the slice of a worker. -/
theorem turn (h : Held P V fed s workers) {id : Nat} {old : Stage}
    (hl : workers.lookup id = some old) {t : Session.Turn Stage} {vain : Prop}
    (hframe : s.SameFrame t.session) (hvain : vain → t.session.active ≠ some id)
    (ht : s.Places id vain t) :
    Held P (fun k => (k = id ∧ vain) ∨ V k) fed t.session (put id t.stage workers) := by
  have hself : (put id t.stage workers).lookup id = t.stage :=
    lookup_put_self h.numbered.nodup (Option.isSome_of_eq_some hl)
  have hother {k : Nat} (hk : k ≠ id) : (put id t.stage workers).lookup k = workers.lookup k :=
    lookup_put_of_ne hk _ _
  refine ⟨hframe.nextWorker ▸ h.numbered.put hl t.stage, ?_, ?_, ?_, ?_, ?_, ?_⟩
  · intro k hk
    obtain ⟨hP, hlives⟩ := h.active k (ht.active_before hk)
    refine ⟨hP, ?_⟩
    by_cases hid : k = id
    · subst hid
      rw [hself]
      exact ht.stage hk
    · rw [hother hid]
      exact hlives
  · intro k hP hk
    have hstays : k = id → t.stage.isSome = true := by
      rintro rfl
      rwa [hself] at hk
    have hbefore : (workers.lookup k).isSome = true := by
      by_cases hid : k = id
      · rw [hid]
        exact Option.isSome_of_eq_some hl
      · rwa [hother hid] at hk
    rcases h.lives k hP hbefore with ha | hV
    · rcases ht.active_after ha hstays with ha | hv
      · exact .inl ha
      · exact .inr (.inl hv)
    · exact .inr (.inr hV)
  · rintro k (⟨rfl, hv⟩ | hV)
    · refine ⟨?_, hvain hv⟩
      rw [hframe.nextWorker]
      exact h.numbered.lt (k, old) (mem_of_lookup hl)
    · obtain ⟨hlt, hne⟩ := h.gone k hV
      refine ⟨?_, fun ha => hne (ht.active_before ha)⟩
      rw [hframe.nextWorker]
      exact hlt
  · exact fun k hk => ht.awaited h.awaited hk
  · rw [hframe.started]
    exact h.started
  · intro hk
    rw [hframe.started]
    obtain ⟨k, hk⟩ := Option.isSome_iff_exists.mp hk
    exact h.busy (Option.isSome_of_eq_some (ht.active_before hk))

/-- A flush may take the worker that is to be waited for, and moves nobody. -/
theorem flushed (h : Held P V fed s workers) {t : Session} (hactive : t.active = s.active)
    (hawaited : t.awaited = none ∨ t.awaited = s.awaited) (hframe : s.SameFrame t) :
    Held P V fed t workers := by
  refine ⟨?_, ?_, ?_, ?_, ?_, ?_, ?_⟩
  · exact hframe.nextWorker ▸ h.numbered
  · exact hactive ▸ h.active
  · exact hactive ▸ h.lives
  · exact hframe.nextWorker ▸ hactive ▸ h.gone
  · intro id hid
    rcases hawaited with hn | hs
    · rw [hn] at hid
      cases hid
    · rw [hactive]
      exact h.awaited id (hs ▸ hid)
  · rw [hframe.started]
    exact h.started
  · rw [hactive, hframe.started]
    exact h.busy

/-- Where nothing is fed and there is no reset, everybody keeps the standing that he had. -/
theorem unfed (h : Held P V fed s workers) {r : Session} {fed? : Option (Text × Bool)}
    (hfed : fed? = none) {resets : Bool} (hresets : resets = false) (hV : ∀ id, V' id ↔ V id) :
    Held (fun id => r.hires? fed? = some id ∨ (resets = false ∧ P id)) V'
      (Speaks fed? ∨ (resets = false ∧ fed)) s workers := by
  subst hfed hresets
  refine h.congr (fun id => ?_) hV ?_
  · simp [Session.hires?]
  · simp [not_speaks_none]

/-- After a reset nobody has a standing. -/
theorem unfed_reset (h : Held (fun _ => False) V False s workers) {r : Session}
    (hV : ∀ id, V' id ↔ V id) :
    Held (fun id => r.hires? none = some id ∨ (true = false ∧ P id)) V'
      (Speaks none ∨ (true = false ∧ fed)) s workers := by
  refine h.congr (fun id => ?_) hV ?_
  · simp [Session.hires?]
  · simp [not_speaks_none]

end Held

namespace World

variable {P : Nat → Prop} {fed : Prop}

/-- One move. -/
theorem held_step {w : World} (h : Held P (fun _ => False) fed w.session w.workers)
    (fails : Trigger → Bool) (m : Move) :
    Held (fun id => w.session.hires? m.fed? = some id ∨ (m.isReset = false ∧ P id))
      (fun _ => False) (Speaks m.fed? ∨ (m.isReset = false ∧ fed))
      (w.step fails m).1.session (w.step fails m).1.workers := by
  have hturn {id : Nat} {stage : WorkerStage} (hl : w.workers.lookup id = some stage)
      {t : Session.Turn WorkerStage} (ht : Session.Worked id w.session t)
      (hframe : w.session.SameFrame t.session) :
      Held P (fun _ => False) fed t.session (put id t.stage w.workers) :=
    (h.turn hl hframe False.elim ht.places).congr (fun _ => .rfl) (by simp) .rfl
  have hspec := step_spec fails w m
  generalize w.step fails m = after at hspec ⊢
  cases hspec with
  | still m hm =>
    obtain ⟨hfed, hreset⟩ := Move.plain_of_task hm
    exact h.unfed hfed hreset fun _ => .rfl
  | feed chunk canWork =>
    exact (h.feed chunk canWork .ready).congr (fun _ => by simp [Move.fed?, Move.isReset])
      (fun _ => .rfl) (by simp [Move.fed?, Move.isReset])
  | flush => exact h.unfed rfl rfl fun _ => .rfl
  | workerTurn hl =>
    have hheld := hturn hl (Session.worked_work _ _) (Session.sameFrame_work _ _ _)
    exact hheld.unfed rfl rfl fun _ => .rfl
  | @workerAnswer id segment others a hl =>
    have hworked := Session.worked_resumeWork fails id w.session (Classifier.settled a) others
      [.answered (.worker id) a]
    exact (hturn hl hworked (Session.sameFrame_resumeWork _ _ _ _ _)).unfed rfl rfl fun _ => .rfl
  | @flushTurn id stage hl hs =>
    have hflushed := Session.flushed_startFlush w.lives id w.session
    exact (h.flushed hflushed.active hflushed.awaited hflushed.frame).unfed rfl rfl fun _ => .rfl
  | @flushAnswer id segment response a hl =>
    have hflushed := Session.flushed_resumeFlush fails w.session id (Classifier.settled a) response
      [.answered (.flush id) a]
    exact (h.flushed hflushed.active hflushed.awaited hflushed.frame).unfed rfl rfl fun _ => .rfl
  | reset => exact h.reset.unfed_reset fun _ => .rfl
  | fullReset =>
    have hplaces : w.session.reset.SamePlaces w.session.fullReset := ⟨rfl, rfl, rfl, rfl⟩
    exact (h.reset.withSession hplaces h.reset.started fun hs => hs).unfed_reset fun _ => .rfl
  | playback c length =>
    have hplaces : w.session.SamePlaces (w.session.playback c length) := ⟨rfl, rfl, rfl, rfl⟩
    exact (h.withSession hplaces h.started fun hs => hs).unfed rfl rfl fun _ => .rfl
  | setClock time =>
    have hplaces : w.session.SamePlaces { w.session with clock := time } := ⟨rfl, rfl, rfl, rfl⟩
    exact (h.withSession hplaces h.started fun hs => hs).unfed rfl rfl fun _ => .rfl

/-- A play. -/
theorem held_play (config : CueConfig) (clock : Millis) (beats : List (Beat Move)) :
    Held ((new config clock).Unrevoked beats) (fun _ => False)
      (FedSince Move.fed? Move.isReset beats) ((new config clock).play beats).1.session
      ((new config clock).play beats).1.workers := by
  induction beats using List.reverseRecOn with
  | nil =>
    exact held_new config clock (fun _ => not_stands_nil) (fun _ => False.elim) not_stands_nil
  | append_singleton beats b ih =>
    rw [play_snoc]
    exact (held_step ih b.fails b.act).congr (fun _ => stands_snoc beats b) (fun _ => .rfl)
      (stands_snoc beats b)

end World

namespace Sliced

variable {P V : Nat → Prop} {fed : Prop}

/-- Only a worker that has its slice can look for segments in vain. -/
theorem looksInVain_or_iff {w : Sliced} {x : Slice} (hx : ∀ id, x ≠ .workerTurn id) (id : Nat) :
    w.LooksInVain x id ∨ V id ↔ V id :=
  or_iff_right fun h => hx id h.1

/-- One slice. -/
theorem held_step {w : Sliced} (h : Held P V fed w.session w.workers) (fails : Trigger → Bool)
    (x : Slice) :
    Held (fun id => w.session.hires? x.fed? = some id ∨ (x.isReset = false ∧ P id))
      (fun id => w.LooksInVain x id ∨ V id) (Speaks x.fed? ∨ (x.isReset = false ∧ fed))
      (w.step fails x).1.session (w.step fails x).1.workers := by
  have hspec := step_spec fails w x
  generalize w.step fails x = after at hspec ⊢
  cases hspec with
  | still x hx hnone =>
    obtain ⟨hfed, hreset⟩ := Slice.plain_of_task hx
    refine h.unfed hfed hreset fun k => or_iff_right ?_
    rintro ⟨hk, hgoing, -⟩
    rw [hnone k hk] at hgoing
    cases hgoing
  | feed chunk canWork =>
    exact (h.feed chunk canWork (.going [])).congr (fun _ => by simp [Slice.fed?, Slice.isReset])
      (looksInVain_or_iff nofun) (by simp [Slice.fed?, Slice.isReset])
  | flush => exact h.unfed rfl rfl (looksInVain_or_iff nofun)
  | @workerTurn id place hl =>
    have hplaces : w.session.Places id (place = .going [] ∧ w.session.buffer.hasBoundary = false)
        (w.session.workSlice fails id place) :=
      (Session.workSliced fails id w.session place).places fun hgoing hb => ⟨hgoing, hb⟩
    have hturn := h.turn hl (Session.sameFrame_workSlice fails id w.session place)
      (fun hv => Session.active_workSlice_of_vain fails hv.1 hv.2) hplaces
    refine hturn.unfed rfl rfl fun k => or_congr_left ?_
    constructor
    · rintro ⟨hk, hgoing, hb⟩
      cases hk
      exact ⟨rfl, Option.some.inj (hl.symm.trans hgoing), hb⟩
    · rintro ⟨rfl, rfl, hb⟩
      exact ⟨rfl, hl, hb⟩
  | @flushTurn id place hl =>
    have hflushed := Session.flushSliced fails w.lives id w.session place
    exact (h.flushed hflushed.active hflushed.awaited hflushed.frame).unfed rfl rfl
      (looksInVain_or_iff nofun)
  | @workerAnswer id segment others a hl =>
    have hplaces : w.session.Places id False
        ⟨w.session, some (WorkerPlace.told (Classifier.settled a) others),
          [.answered (.worker id) a]⟩ := by
      by_cases ha : w.session.active = some id
      · exact .stays ha ha rfl rfl
      · exact .revoked ha rfl
    refine (h.turn hl .rfl False.elim hplaces).unfed rfl rfl fun k => ?_
    simp [LooksInVain]
  | flushAnswer a hl => exact h.unfed rfl rfl (looksInVain_or_iff nofun)
  | reset => exact h.reset.unfed_reset (looksInVain_or_iff nofun)
  | resetGates =>
    have hplaces : w.session.SamePlaces { w.session with gates := w.session.gates.reset } :=
      ⟨rfl, rfl, rfl, rfl⟩
    exact (h.withSession hplaces h.started fun hs => hs).unfed rfl rfl (looksInVain_or_iff nofun)
  | playback c length =>
    have hplaces : w.session.SamePlaces (w.session.playback c length) := ⟨rfl, rfl, rfl, rfl⟩
    exact (h.withSession hplaces h.started fun hs => hs).unfed rfl rfl (looksInVain_or_iff nofun)
  | setClock time =>
    have hplaces : w.session.SamePlaces { w.session with clock := time } := ⟨rfl, rfl, rfl, rfl⟩
    exact (h.withSession hplaces h.started fun hs => hs).unfed rfl rfl (looksInVain_or_iff nofun)

/-- A play. -/
theorem held_play (config : CueConfig) (clock : Millis) (beats : List (Beat Slice)) :
    Held ((new config clock).Unrevoked beats) ((new config clock).Finished beats)
      (FedSince Slice.fed? Slice.isReset beats) ((new config clock).play beats).1.session
      ((new config clock).play beats).1.workers := by
  induction beats using List.reverseRecOn with
  | nil =>
    exact held_new config clock (fun _ => not_stands_nil) (fun _ => not_stands_nil) not_stands_nil
  | append_singleton beats b ih =>
    rw [play_snoc]
    have hfinished (id : Nat) :
        (new config clock).Finished (beats ++ [b]) id ↔
          ((new config clock).play beats).1.LooksInVain b.act id ∨
            (new config clock).Finished beats id := by
      unfold Finished
      rw [stands_snoc]
      simp only [true_and]
    exact (held_step ih b.fails b.act).congr (fun _ => stands_snoc beats b) hfinished
      (stands_snoc beats b)

end Sliced

/-! ## The place is never stuck -/

/-- The place of the active worker is taken by whoever works, and by nobody else: the next flush
waits for nobody else, the session classifies as long as somebody works, and it is idle as long as
nothing was fed. When the place is free, any piece of text that is not empty and leaves a boundary
finds a new worker. -/
structure Session.PlaceKept (works : Nat → Prop) (fed : Prop) (s : Session) : Prop where
  active : ∀ id, s.active = some id ↔ works id
  awaited : ∀ id, s.awaited = some id → s.active = some id
  classifying : s.phase = .classifying ↔ ∃ id, works id
  idle : s.phase = .idle ↔ ¬ fed
  hires : ∀ chunk, chunk ≠ [] → s.active = none → (s.buffer.append chunk).hasBoundary = true →
    (s.feed chunk true).worker = some s.nextWorker ∧
      (s.feed chunk true).session.active = some s.nextWorker

theorem Session.phase_eq_classifying_iff (s : Session) :
    s.phase = .classifying ↔ s.active.isSome = true := by
  unfold phase
  cases s.active <;> cases s.started <;> simp

theorem Session.phase_eq_idle_iff (s : Session) :
    s.phase = .idle ↔ s.active = none ∧ s.started = false := by
  unfold phase
  cases s.active <;> cases s.started <;> simp

theorem Session.feed_hires (s : Session) {chunk : Text} (hc : chunk ≠ []) (hidle : s.active = none)
    (hb : (s.buffer.append chunk).hasBoundary = true) :
    (s.feed chunk true).worker = some s.nextWorker ∧
      (s.feed chunk true).session.active = some s.nextWorker := by
  rcases feed_cases s hc true with ⟨-, -, hnone⟩ | ⟨hs, hworker, -⟩
  · rw [hnone rfl hidle] at hb
    cases hb
  · refine ⟨hworker, ?_⟩
    rw [hs]
    exact congrArg some (samePlaces_heard s chunk).nextWorker

theorem Held.placeKept {Stage : Type} {P V : Nat → Prop} {fed : Prop} {s : Session}
    {workers : List (Nat × Stage)} (h : Held P V fed s workers) {works : Nat → Prop}
    (hworks : ∀ id, works id ↔ (workers.lookup id).isSome = true ∧ P id ∧ ¬ V id) :
    s.PlaceKept works fed := by
  have hactive (id : Nat) : s.active = some id ↔ works id := by
    rw [hworks]
    constructor
    · intro ha
      obtain ⟨hP, hlives⟩ := h.active id ha
      exact ⟨hlives, hP, fun hV => (h.gone id hV).2 ha⟩
    · rintro ⟨hlives, hP, hV⟩
      exact (h.lives id hP hlives).resolve_right hV
  refine ⟨hactive, h.awaited, ?_, ?_, fun chunk hc hidle hb => s.feed_hires hc hidle hb⟩
  · rw [s.phase_eq_classifying_iff, Option.isSome_iff_exists]
    exact exists_congr hactive
  · rw [s.phase_eq_idle_iff, ← h.started, Bool.not_eq_true]
    refine and_iff_right_of_imp ?_
    intro hsilent
    rw [← Option.not_isSome_iff_eq_none]
    intro ha
    rw [h.busy ha] at hsilent
    cases hsilent

/-- The place of the active worker is never stuck, whenever the receiver breaks down and whenever
resets come. Between two moves it is taken by the worker that has not ended and that no reset has
revoked. Between two slices the same holds, only that a worker which found nothing complete has
given up its place before it leaves. -/
theorem World.the_place_is_never_stuck (config : CueConfig) (clock : Millis) :
    (∀ beats : List (Beat Move),
        let w := ((World.new config clock).play beats).1
        w.session.PlaceKept
          (fun id => w.lives id = true ∧ (World.new config clock).Unrevoked beats id)
          (FedSince Move.fed? Move.isReset beats)) ∧
      ∀ beats : List (Beat Slice),
        let w := ((Sliced.new config clock).play beats).1
        w.session.PlaceKept
          (fun id => w.lives id = true ∧ (Sliced.new config clock).Unrevoked beats id ∧
            ¬ (Sliced.new config clock).Finished beats id)
          (FedSince Slice.fed? Slice.isReset beats) := by
  refine ⟨fun beats => ?_, fun beats => ?_⟩
  · refine (World.held_play config clock beats).placeKept fun id => ?_
    simp only [not_false_eq_true, and_true]
    rfl
  · exact (Sliced.held_play config clock beats).placeKept fun _ => .rfl

/-- The receiver breaks down over the nod of the first worker, while a second sentence lies in the
buffer. The next word finds a second worker. -/
theorem World.the_place_is_free_after_a_breakdown :
    let config : CueConfig := { gestures := [], expressions := [] }
    let nod := Answer.text "\x7b\"gesture\": \"nod\"\x7d".toList
    let beats : List (Beat Move) :=
      [⟨.feed "Rain is coming.\nMore".toList true, unfailing⟩, ⟨.workerTurn 0, unfailing⟩,
        ⟨.feed " to come.\nAnd".toList true, unfailing⟩, ⟨.workerAnswer 0 nod, fun _ => true⟩]
    let w := ((World.new config 10000).play beats).1
    .broke (.worker 0) (.gesture .nod) ∈ ((World.new config 10000).play beats).2 ∧
      w.workers = [] ∧ w.session.phase = .buffering ∧
      FedSince Move.fed? Move.isReset beats ∧
      (w.session.feed " then".toList true).worker = some 1 := by
  intro config nod beats w
  have hkept := (World.the_place_is_never_stuck config 10000).1 beats
  have hbuffering : w.session.phase = .buffering := by decide +kernel
  have hfed : FedSince Move.fed? Move.isReset beats := by
    by_contra hunfed
    cases hbuffering.symm.trans (hkept.idle.mpr hunfed)
  have hhired := hkept.hires " then".toList (by decide) (by decide +kernel) (by decide +kernel)
  have hsecond : (w.session.feed " then".toList true).worker = some 1 := by
    rw [hhired.1]
    decide +kernel
  exact ⟨by decide +kernel, by decide +kernel, hbuffering, hfed, hsecond⟩

/-- After the same breakdown an empty piece finds no worker, although a boundary lies in the buffer
and the place is free. And a worker that found nothing complete is still there for a moment when its
place is free already. -/
theorem World.an_empty_piece_finds_no_worker :
    let config : CueConfig := { gestures := [], expressions := [] }
    let nod := Answer.text "\x7b\"gesture\": \"nod\"\x7d".toList
    let beats : List (Beat Move) :=
      [⟨.feed "Rain is coming.\nMore".toList true, unfailing⟩, ⟨.workerTurn 0, unfailing⟩,
        ⟨.feed " to come.\nAnd".toList true, unfailing⟩, ⟨.workerAnswer 0 nod, fun _ => true⟩]
    let slices : List (Beat Slice) :=
      [⟨.feed "Rain is coming.\nMore".toList true, unfailing⟩, ⟨.workerTurn 0, unfailing⟩,
        ⟨.workerTurn 0, unfailing⟩, ⟨.workerAnswer 0 .crash, unfailing⟩,
        ⟨.workerTurn 0, unfailing⟩, ⟨.workerTurn 0, unfailing⟩, ⟨.workerTurn 0, unfailing⟩]
    let w := ((World.new config 10000).play beats).1
    let v := ((Sliced.new config 10000).play slices).1
    (.broke (.worker 0) (.gesture .nod) ∈ ((World.new config 10000).play beats).2 ∧
        w.session.active = none ∧ (w.session.buffer.append []).hasBoundary = true ∧
        (w.session.feed [] true).worker = none ∧
        (w.session.feed [] true).session.phase = .buffering) ∧
      v.lives 0 = true ∧ (Sliced.new config 10000).Unrevoked slices 0 ∧
      v.session.active = none := by
  intro config nod beats slices w v
  have hunrevoked : (Sliced.new config 10000).Unrevoked slices 0 :=
    ⟨[], ⟨.feed "Rain is coming.\nMore".toList true, unfailing⟩, _, rfl, by decide +kernel,
      by simp [Slice.isReset]⟩
  refine ⟨⟨?_, ?_, ?_, ?_, ?_⟩, ?_, hunrevoked, ?_⟩
  all_goals decide +kernel

end CueStream
