-- How many calls of the model wait for their answers at once. A reset neither
-- waits for a call nor cancels it, so only the calls of one response are
-- counted. Among them at most one is a worker's, whatever happens between two
-- slices. A flush may have a call beside it: it looks for a worker to wait for
-- and takes the rest out in two slices, and a worker may be started in between.
import CueStream.Proofs.Session.Exclusive
import CueStream.Proofs.Session.Overtaken

namespace CueStream

/-! ## One flush at a time -/

/-- The flush has to do with the response with this number, up to the answer of the model. -/
def FlushPlace.isUnderWay (response : Nat) : FlushPlace → Bool
  | asking _ r => r = response
  | waiting _ r => r = response
  | told _ _ => false
  | _ => true

/-- The flush has found nobody to wait for in the response with this number, and the model has not
answered it. -/
def FlushPlace.isBusy (response : Nat) : FlushPlace → Bool
  | draining => true
  | asking _ r => r = response
  | waiting _ r => r = response
  | _ => false

namespace Session

variable {fails : Trigger → Bool} {lives : Nat → Bool} {id : Nat} {s : Session}
  {place q : FlushPlace}

/-- What a flush comes to is under way only if the flush was. -/
theorem isUnderWay_flushSlice (hstage : (s.flushSlice fails lives id place).stage = some q)
    (hq : q.isUnderWay s.response = true) : place.isUnderWay s.response = true := by
  cases place with
  | asking segment response =>
    rw [flushSlice] at hstage
    split at hstage <;> cases hstage
    · exact hq
    · cases hq
  | waiting segment response =>
    cases hstage
    exact hq
  | told i response => cases hstage
  | _ => rfl

/-- A flush becomes busy when it finds nobody to wait for, and at no other place. -/
theorem isBusy_flushSlice (hready : place ≠ .ready)
    (hstage : (s.flushSlice fails lives id place).stage = some q)
    (hq : q.isBusy s.response = true) : place.isBusy s.response = true := by
  cases place with
  | ready => exact absurd rfl hready
  | joining worker =>
    cases hlives : lives worker <;> simp only [flushSlice, hlives] at hstage <;> cases hstage <;>
      cases hq
  | draining => rfl
  | asking segment response =>
    rw [flushSlice] at hstage
    split at hstage <;> cases hstage
    · exact hq
    · cases hq
  | waiting segment response =>
    cases hstage
    exact hq
  | told i response => cases hstage

/-- It takes the worker that is to be waited for when it looks for one, and at no other place. -/
theorem awaited_flushSlice (hready : place ≠ .ready) :
    (s.flushSlice fails lives id place).session.awaited = s.awaited := by
  cases place with
  | ready => exact absurd rfl hready
  | joining worker => rfl
  | draining =>
    have hdrain : s.drain.1.awaited = s.awaited := by rw [drain_eq]
    rw [flushSlice]
    split
    all_goals
      rename_i hdrained
      rw [hdrained] at hdrain
      exact hdrain
  | asking segment response =>
    rw [flushSlice]
    split <;> rfl
  | waiting segment response => rfl
  | told i response =>
    rw [flushSlice, (resumeFlush_eq fails s id i response).2]

end Session

namespace Sliced

/-- The slice leaves a flush to itself: no flush is called while another one is under way, and no
worker is started while a flush is busy. -/
def Admits (w : Sliced) : Slice → Prop
  | .feed chunk canWork =>
    (w.session.feed chunk canWork).worker ≠ none →
      ∀ e ∈ w.flushes, e.2.isBusy w.session.response = false
  | .flush => ∀ e ∈ w.flushes, e.2.isUnderWay w.session.response = false
  | _ => True

/-- Every slice of a play leaves the flushes to themselves. -/
def Ordered (w : Sliced) : List (Beat Slice) → Prop
  | [] => True
  | b :: rest => w.Admits b.act ∧ Ordered (w.step b.fails b.act).1 rest

instance (w : Sliced) : (x : Slice) → Decidable (w.Admits x)
  | .feed chunk canWork =>
    inferInstanceAs (Decidable ((w.session.feed chunk canWork).worker ≠ none →
      ∀ e ∈ w.flushes, e.2.isBusy w.session.response = false))
  | .flush =>
    inferInstanceAs (Decidable (∀ e ∈ w.flushes, e.2.isUnderWay w.session.response = false))
  | .workerTurn _ => isTrue trivial
  | .flushTurn _ => isTrue trivial
  | .workerAnswer _ _ => isTrue trivial
  | .flushAnswer _ _ => isTrue trivial
  | .reset => isTrue trivial
  | .resetGates => isTrue trivial
  | .playback _ _ => isTrue trivial
  | .setClock _ => isTrue trivial

instance decidableOrdered (w : Sliced) : (beats : List (Beat Slice)) → Decidable (Ordered w beats)
  | [] => isTrue trivial
  | b :: rest =>
    have := decidableOrdered (w.step b.fails b.act).1 rest
    inferInstanceAs (Decidable (w.Admits b.act ∧ Ordered (w.step b.fails b.act).1 rest))

/-- At most one flush is under way; no worker is active while a flush is busy; and the active worker
is one that a flush waits for, or will have to wait for. -/
structure Exclusive (w : Sliced) : Prop where
  unique : ∀ d ∈ w.flushes, ∀ e ∈ w.flushes, d.2.isUnderWay w.session.response = true →
    e.2.isUnderWay w.session.response = true → d.1 = e.1
  idle : ∀ e ∈ w.flushes, e.2.isBusy w.session.response = true → w.session.active = none
  watched : ∀ worker, w.session.active = some worker →
    w.session.awaited = some worker ∨ ∃ id, (id, .joining worker) ∈ w.flushes

theorem exclusive_new (config : CueConfig) (clock : Millis) : Exclusive (new config clock) :=
  ⟨nofun, nofun, nofun⟩

namespace Exclusive

variable {w : Sliced}

/-- A change of the session that moves nobody. -/
theorem withSession (h : Exclusive w) {s : Session} (hs : w.session.SamePlaces s) :
    Exclusive { w with session := s } := by
  refine ⟨?_, ?_, ?_⟩
  · exact hs.response ▸ h.unique
  · exact hs.response ▸ hs.active ▸ h.idle
  · exact hs.active ▸ hs.awaited ▸ h.watched

theorem feed (h : Exclusive w) {chunk : Text} {canWork : Bool}
    (hadmits : w.Admits (.feed chunk canWork)) (fails : Trigger → Bool) :
    Exclusive (w.step fails (.feed chunk canWork)).1 := by
  unfold step
  rcases w.session.feed_places chunk canWork with ⟨hworker, hplaces⟩ | ⟨hworker, -, hsession⟩
  · simp only [hworker, Option.map_none, Option.toList_none, List.append_nil]
    exact h.withSession hplaces
  · have hresponse : (w.session.heard chunk).hired.response = w.session.response :=
      (Session.samePlaces_heard w.session chunk).response
    have hquiet := hadmits (by simp [hworker])
    simp only [hworker, hsession, Option.map_some, Option.toList_some]
    refine ⟨?_, ?_, fun worker ha => .inl ha⟩
    · exact hresponse ▸ h.unique
    · intro e he hbusy
      rw [hresponse, hquiet e he] at hbusy
      cases hbusy

theorem flush (h : Exclusive w) (hadmits : w.Admits .flush) :
    Exclusive { w with
      flushes := w.flushes ++ [(w.nextFlush, .ready)], nextFlush := w.nextFlush + 1 } := by
  have hnew (e : Nat × FlushPlace) (he : e ∈ w.flushes ++ [(w.nextFlush, .ready)])
      (hu : e.2.isUnderWay w.session.response = true) : e.1 = w.nextFlush := by
    rcases List.mem_append.mp he with he | he
    · rw [hadmits e he] at hu
      cases hu
    · rw [List.mem_singleton.mp he]
  refine ⟨?_, ?_, ?_⟩
  · intro d hd e he hdu heu
    rw [hnew d hd hdu, hnew e he heu]
  · intro e he hbusy
    rcases List.mem_append.mp he with he | he
    · exact h.idle e he hbusy
    · rw [List.mem_singleton.mp he] at hbusy
      cases hbusy
  · intro worker ha
    refine (h.watched worker ha).imp_right ?_
    rintro ⟨id, hm⟩
    exact ⟨id, List.mem_append_left _ hm⟩

theorem workerTurn (h : Exclusive w) (fails : Trigger → Bool) (id : Nat) (place : WorkerPlace) :
    Exclusive (w.afterWorker id (w.session.workSlice fails id place)).1 := by
  have hframe := Session.sameFrame_workSlice fails id w.session place
  have hsliced := Session.workSliced fails id w.session place
  generalize w.session.workSlice fails id place = t at hframe hsliced ⊢
  have hunique := h.unique
  have hidle := h.idle
  rw [← hframe.response] at hunique hidle
  refine ⟨hunique, ?_, ?_⟩
  · intro e he hbusy
    show t.session.active = none
    have hnone := hidle e he hbusy
    cases hsliced with
    | revoked _ hsession => rwa [hsession]
    | stays ha _ _ _ _ => cases ha.symm.trans hnone
    | vain ha _ _ _ _ | left ha _ _ _ => cases ha.symm.trans hnone
  · intro worker hworker
    change t.session.active = some worker at hworker
    show t.session.awaited = some worker ∨ _
    cases hsliced with
    | revoked _ hsession =>
      rw [hsession] at hworker ⊢
      exact h.watched worker hworker
    | stays ha hactive hawaited _ _ =>
      rw [hawaited]
      exact h.watched worker (ha.trans (hactive.symm.trans hworker))
    | vain ha _ _ hsession _ | left ha _ hsession _ =>
      rw [hsession, Session.release, if_pos ha] at hworker
      cases hworker

/-- Beside a flush that is under way and waits for nobody, no flush waits for anybody. -/
theorem not_joining (h : Exclusive w) (hw : Sound w) {id : Nat} {place : FlushPlace}
    (hl : w.flushes.lookup id = some place) (hplace : place.isUnderWay w.session.response = true)
    (hwaits : ∀ worker, place ≠ .joining worker) (k worker : Nat) :
    (k, .joining worker) ∉ w.flushes := by
  intro hm
  have hk : k = id := h.unique _ hm _ (mem_of_lookup hl) rfl hplace
  have hlk := lookup_of_mem hw.flushes.nodup hm
  rw [hk, hl] at hlk
  exact hwaits worker (Option.some.inj hlk)

/-- A flush comes to another place. What is left to show is that no worker is active if it is busy
there, and that the active worker is still waited for. -/
theorem afterFlush (h : Exclusive w) (fails : Trigger → Bool) {id : Nat} {place : FlushPlace}
    (hl : w.flushes.lookup id = some place)
    (hbusy : ∀ q, (w.session.flushSlice fails w.lives id place).stage = some q →
      q.isBusy w.session.response = true → w.session.active = none)
    (hwatched : ∀ worker, w.session.active = some worker →
      (w.session.flushSlice fails w.lives id place).session.awaited = some worker ∨
        ∃ k, (k, .joining worker) ∈
          put id (w.session.flushSlice fails w.lives id place).stage w.flushes) :
    Exclusive (w.afterFlush id (w.session.flushSlice fails w.lives id place)).1 := by
  have hflush := Session.flushSliced fails w.lives id w.session place
  have hstage := @Session.isUnderWay_flushSlice fails w.lives id w.session place
  generalize w.session.flushSlice fails w.lives id place = t at hbusy hwatched hflush hstage ⊢
  -- whoever is under way afterwards was under way before
  have hold (e : Nat × FlushPlace) (he : e ∈ put id t.stage w.flushes)
      (hu : e.2.isUnderWay w.session.response = true) :
      ∃ place, (e.1, place) ∈ w.flushes ∧ place.isUnderWay w.session.response = true := by
    rcases mem_put he with he | ⟨q, hq, rfl⟩
    · exact ⟨e.2, he, hu⟩
    · exact ⟨place, mem_of_lookup hl, hstage hq hu⟩
  unfold Sliced.afterFlush
  refine ⟨?_, ?_, ?_⟩
  · simp only [hflush.frame.response]
    intro d hd e he hdu heu
    obtain ⟨p, hp, hpu⟩ := hold d hd hdu
    obtain ⟨r, hr, hru⟩ := hold e he heu
    exact h.unique (d.1, p) hp (e.1, r) hr hpu hru
  · simp only [hflush.frame.response, hflush.active]
    exact forall_mem_put h.idle hbusy
  · simp only [hflush.active]
    exact hwatched

/-- A flush that looks for a worker finds the active one, or there is none. -/
theorem ready (h : Exclusive w) (hw : Sound w) (fails : Trigger → Bool) {id : Nat}
    (hl : w.flushes.lookup id = some .ready) :
    Exclusive (w.afterFlush id (w.session.flushSlice fails w.lives id .ready)).1 := by
  have hfound (worker : Nat) (ha : w.session.active = some worker) :
      w.session.awaited = some worker := by
    refine (h.watched worker ha).resolve_right ?_
    rintro ⟨k, hm⟩
    exact h.not_joining hw hl rfl nofun k worker hm
  cases hawaited : w.session.awaited with
  | none =>
    have hstart : w.session.flushSlice fails w.lives id .ready =
        ⟨w.session, some .draining, []⟩ := by
      simp only [Session.flushSlice, hawaited]
    have hnone : w.session.active = none := by
      cases ha : w.session.active with
      | none => rfl
      | some worker => cases hawaited.symm.trans (hfound worker ha)
    refine h.afterFlush fails hl (fun _ _ _ => hnone) ?_
    intro worker ha
    cases hnone.symm.trans ha
  | some worker =>
    have hstart : w.session.flushSlice fails w.lives id .ready =
        ⟨{ w.session with awaited := none }, some (.joining worker), []⟩ := by
      simp only [Session.flushSlice, hawaited]
    refine h.afterFlush fails hl ?_ ?_
    · intro q hq hbusy
      rw [hstart] at hq
      cases hq
      cases hbusy
    · intro k ha
      cases hawaited.symm.trans (hfound k ha)
      rw [hstart]
      exact .inr ⟨id, mem_of_lookup (lookup_put_some hl _)⟩

theorem flushTurn (h : Exclusive w) (hw : Sound w) (fails : Trigger → Bool) {id : Nat}
    {place : FlushPlace} (hl : w.flushes.lookup id = some place) :
    Exclusive (w.afterFlush id (w.session.flushSlice fails w.lives id place)).1 := by
  by_cases hready : place = .ready
  · subst hready
    exact h.ready hw fails hl
  · refine h.afterFlush fails hl ?_ ?_
    · intro q hq hbusy
      exact h.idle _ (mem_of_lookup hl) (Session.isBusy_flushSlice hready hq hbusy)
    · intro worker ha
      rw [Session.awaited_flushSlice hready]
      refine (h.watched worker ha).imp_right ?_
      rintro ⟨k, hm⟩
      refine ⟨k, ?_⟩
      by_cases hk : k = id
      · -- the flush goes on waiting, since the active worker has not ended
        subst hk
        cases (lookup_of_mem hw.flushes.nodup hm).symm.trans hl
        have hlives := hw.active_lives worker ha
        have hstage : (w.session.flushSlice fails w.lives k (.joining worker)).stage =
            some (.joining worker) := by
          simp only [Session.flushSlice, hlives, if_true]
        rw [hstage]
        exact mem_of_lookup (lookup_put_some hl _)
      · exact mem_put_of_ne hm hk

/-- A flush that the model has answered is not under way any more. -/
theorem flushAnswer (h : Exclusive w) (hw : Sound w) {id : Nat} {segment : Segment} {response : Nat}
    (hl : w.flushes.lookup id = some (.waiting segment response)) (i : Intent) :
    Exclusive { w with flushes := put id (some (.told i response)) w.flushes } := by
  have hold {e : Nat × FlushPlace} (he : e ∈ put id (some (.told i response)) w.flushes) :
      e ∈ w.flushes ∨ e.2 = .told i response := by
    rcases mem_put he with he | ⟨q, hq, rfl⟩
    · exact .inl he
    · cases hq
      exact .inr rfl
  refine ⟨?_, ?_, ?_⟩
  · intro d hd e he hdu heu
    rcases hold hd with hd | hd
    · rcases hold he with he | he
      · exact h.unique d hd e he hdu heu
      · rw [he] at heu
        cases heu
    · rw [hd] at hdu
      cases hdu
  · intro e he hbusy
    rcases hold he with he | he
    · exact h.idle e he hbusy
    · rw [he] at hbusy
      cases hbusy
  · intro worker ha
    refine (h.watched worker ha).imp_right ?_
    rintro ⟨k, hm⟩
    refine ⟨k, mem_put_of_ne hm ?_⟩
    rintro rfl
    cases (lookup_of_mem hw.flushes.nodup hm).symm.trans hl

/-- A reset puts the flushes behind that have taken a last segment out. -/
theorem reset (h : Exclusive w) (hw : Sound w) :
    Exclusive { w with session := w.session.reset } := by
  have hold (e : Nat × FlushPlace) (he : e ∈ w.flushes)
      (hu : e.2.isUnderWay (w.session.response + 1) = true) :
      e.2.isUnderWay w.session.response = true := by
    obtain ⟨k, place⟩ := e
    cases place with
    | asking segment r | waiting segment r =>
      have hle := hw.response_le _ he r rfl
      simp only [FlushPlace.isUnderWay, decide_eq_true_eq] at hu
      omega
    | told i r => cases hu
    | _ => rfl
  refine ⟨?_, fun _ _ _ => rfl, nofun⟩
  intro d hd e he hdu heu
  exact h.unique d hd e he (hold d hd hdu) (hold e he heu)

theorem step (h : Exclusive w) (hw : Sound w) {x : Slice} (hadmits : w.Admits x)
    (fails : Trigger → Bool) : Exclusive (w.step fails x).1 := by
  have hspec := step_spec fails w x
  generalize w.step fails x = after at hspec ⊢
  cases hspec with
  | still => exact h
  | feed chunk canWork => exact h.feed hadmits fails
  | flush => exact h.flush hadmits
  | workerTurn hl => exact h.workerTurn fails _ _
  | flushTurn hl => exact h.flushTurn hw fails hl
  | workerAnswer a hl => exact ⟨h.unique, h.idle, h.watched⟩
  | flushAnswer a hl => exact h.flushAnswer hw hl (Classifier.settled a)
  | reset => exact h.reset hw
  | resetGates => exact h.withSession ⟨rfl, rfl, rfl, rfl⟩
  | playback c length => exact h.withSession ⟨rfl, rfl, rfl, rfl⟩
  | setClock time => exact h.withSession ⟨rfl, rfl, rfl, rfl⟩

theorem play (h : Exclusive w) (hw : Sound w) {beats : List (Beat Slice)}
    (hbeats : w.Ordered beats) : Exclusive (w.play beats).1 := by
  induction beats generalizing w with
  | nil => exact h
  | cons b rest ih => exact ih (h.step hw hbeats.1 b.fails) (hw.step b.fails b.act) hbeats.2

end Exclusive

/-! ## Calls without an answer -/

end Sliced

/-- The model has been asked and has not answered. -/
def WorkerPlace.isWaiting : WorkerPlace → Bool
  | waiting _ _ => true
  | _ => false

/-- The model has been asked and has not answered. -/
def FlushPlace.isWaiting : FlushPlace → Bool
  | waiting _ _ => true
  | _ => false

/-- A list that repeats nothing and whose members are all the same has at most one. -/
theorem length_le_one_of_nodup {α : Type} {l : List α} (hn : l.Nodup)
    (h : ∀ a ∈ l, ∀ b ∈ l, a = b) : l.length ≤ 1 := by
  match l with
  | [] => exact Nat.zero_le 1
  | [_] => exact Nat.le_refl 1
  | a :: b :: rest =>
    have hab : a = b := h a (by simp) b (by simp)
    simp [hab] at hn

/-- Where `P` tells which flushes may have calls, no two tasks have one if all workers with calls are
the active one, `P` tells so of one flush only and of none beside an active worker. -/
theorem calls_le_one {calls : List Actor} (hn : calls.Nodup) (hfeeder : .feeder ∉ calls)
    {active : Option Nat} {P : Nat → Prop} (hworker : ∀ id, .worker id ∈ calls → active = some id)
    (hflush : ∀ id, .flush id ∈ calls → P id) (hunique : ∀ id k, P id → P k → id = k)
    (hidle : ∀ id, P id → active = none) : calls.length ≤ 1 := by
  have hmixed {id k : Nat} (hid : .worker id ∈ calls) (hk : .flush k ∈ calls) : False := by
    cases (hworker id hid).symm.trans (hidle k (hflush k hk))
  apply length_le_one_of_nodup hn
  intro a ha b hb
  cases a with
  | feeder => exact absurd ha hfeeder
  | worker id =>
    cases b with
    | feeder => exact absurd hb hfeeder
    | flush k => exact (hmixed ha hb).elim
    | worker k =>
      cases (hworker id ha).symm.trans (hworker k hb)
      rfl
  | flush id =>
    cases b with
    | feeder => exact absurd hb hfeeder
    | worker k => exact (hmixed hb ha).elim
    | flush k => rw [hunique id k (hflush id ha) (hflush k hb)]

/-- So it is for the workers alone, whatever the flushes do. -/
theorem worker_calls_le_one {calls : List Actor} (hn : calls.Nodup) {active : Option Nat}
    (hworker : ∀ id, .worker id ∈ calls → active = some id) :
    (calls.filter Actor.isWorker).length ≤ 1 := by
  apply length_le_one_of_nodup (hn.filter _)
  intro a ha b hb
  obtain ⟨ha, hka⟩ := List.mem_filter.mp ha
  obtain ⟨hb, hkb⟩ := List.mem_filter.mp hb
  cases a with
  | feeder => cases hka
  | flush id => cases hka
  | worker id =>
    cases b with
    | feeder => cases hkb
    | flush k => cases hkb
    | worker k =>
      cases (hworker id ha).symm.trans (hworker k hb)
      rfl

namespace Sliced

/-- The tasks whose calls have no answer yet. -/
def outstanding (w : Sliced) : List Actor :=
  tasks (·.2.isWaiting) (·.2.isWaiting) w.workers w.flushes

/-- The tasks whose calls have no answer yet in `w`, but for those that were overtaken in `v`. -/
def callsSince (v w : Sliced) : List Actor :=
  w.outstanding.filter (· ∉ v.overtaken)

section CallsSince

variable {v w : Sliced} (h : Divided v.overtaken w)
include h

theorem Divided.nodup_calls : (v.callsSince w).Nodup :=
  (nodup_tasks h.sound.workers.nodup h.sound.flushes.nodup).filter _

theorem Divided.active_of_call {id : Nat} (hm : .worker id ∈ v.callsSince w) :
    w.session.active = some id := by
  obtain ⟨hm, hnew⟩ := List.mem_filter.mp hm
  obtain ⟨place, hplace, hwaits⟩ := worker_mem_tasks.mp hm
  have hengaged : place.isEngaged = true := by
    cases place with
    | waiting segment others => rfl
    | _ => cases hwaits
  exact (h.worker _ hplace hengaged).resolve_right (by simpa using hnew)

theorem Divided.current_of_call {id : Nat} (hm : .flush id ∈ v.callsSince w) :
    ∃ segment, (id, .waiting segment w.session.response) ∈ w.flushes := by
  obtain ⟨hm, hnew⟩ := List.mem_filter.mp hm
  obtain ⟨place, hplace, hwaits⟩ := flush_mem_tasks.mp hm
  cases place with
  | waiting segment response =>
    cases (h.flush _ hplace response rfl).resolve_right (by simpa using hnew)
    exact ⟨segment, hplace⟩
  | _ => cases hwaits

/-- Where a flush is left to itself, no two tasks have a call in one response. -/
theorem Divided.calls_le_one (he : Exclusive w) : (v.callsSince w).length ≤ 1 := by
  refine CueStream.calls_le_one h.nodup_calls
    (fun hm => feeder_not_mem_tasks (List.mem_filter.mp hm).1)
    (P := fun id => ∃ segment, (id, .waiting segment w.session.response) ∈ w.flushes)
    (fun id => h.active_of_call) (fun id => h.current_of_call) ?_ ?_
  · rintro id k ⟨segment, hid⟩ ⟨segment', hk⟩
    exact he.unique _ hid _ hk (by simp [FlushPlace.isUnderWay]) (by simp [FlushPlace.isUnderWay])
  · rintro id ⟨segment, hid⟩
    exact he.idle _ hid (by simp [FlushPlace.isBusy])

end CallsSince

end Sliced

namespace World

/-- The tasks whose calls have no answer yet in `w`, and that had none in `v`. -/
def callsSince (v w : World) : List Actor :=
  w.outstanding.filter (· ∉ v.outstanding)

section CallsSince

variable {v w : World} (h : Since v w)
include h

theorem Since.active_of_call {id : Nat} (hm : .worker id ∈ callsSince v w) :
    w.session.active = some id := by
  obtain ⟨hm, hnew⟩ := List.mem_filter.mp hm
  obtain ⟨segment, others, he⟩ := worker_mem_outstanding.mp hm
  exact (h.worker id segment others he).resolve_left (by simpa using hnew)

theorem Since.current_of_call {id : Nat} (hm : .flush id ∈ callsSince v w) :
    ∃ segment, (id, .waiting segment w.session.response) ∈ w.flushes := by
  obtain ⟨hm, hnew⟩ := List.mem_filter.mp hm
  obtain ⟨segment, response, he⟩ := flush_mem_outstanding.mp hm
  cases (h.flush id segment response he).resolve_left (by simpa using hnew)
  exact ⟨segment, he⟩

/-- Where a flush is left to itself, no two tasks have a call in one response. -/
theorem Since.calls_le_one (hw : Sound w) (he : Exclusive w) : (callsSince v w).length ≤ 1 := by
  refine CueStream.calls_le_one (hw.outstanding_nodup.filter _)
    (fun hm => not_feeder_mem_outstanding w (List.mem_filter.mp hm).1)
    (P := fun id => ∃ segment, (id, .waiting segment w.session.response) ∈ w.flushes)
    (fun id => h.active_of_call) (fun id => h.current_of_call) ?_ ?_
  · rintro id k ⟨segment, hid⟩ ⟨segment', hk⟩
    exact he.unique _ hid _ hk (by simp [FlushStage.isUnderWay]) (by simp [FlushStage.isUnderWay])
  · rintro id ⟨segment, hid⟩
    exact he.idle id segment hid

end CallsSince

/-- Right after a reset, the tasks that it has overtaken do nothing more than take an answer. -/
theorem Sound.inert_of_overtaken {w : World} (hw : Sound w) (fails : Trigger → Bool) {m : Move}
    (hm : m.isReset = true) {a : Actor} (ha : a ∈ (w.step fails m).1.sliced.overtaken) :
    Inert (w.step fails m).1 a := by
  have hv := hw.step fails m
  have hp := past_reset fails w hm
  have hspent (id : Nat) (segment : Segment) (response : Nat)
      (he : (id, .waiting segment response) ∈ w.flushes) :=
    (hw.spent_reset fails hm he).inert hv
  obtain ⟨gates, hstep⟩ := step_of_isReset fails w hm
  rw [hstep] at ha hp hspent ⊢
  cases a with
  | feeder => exact absurd ha feeder_not_mem_tasks
  | worker id =>
    obtain ⟨place, hm, -⟩ := worker_mem_tasks.mp ha
    obtain ⟨⟨k, stage⟩, he, heq⟩ := List.mem_map.mp hm
    cases heq
    exact hp.inert_worker (hw.workers_lt _ he)
  | flush id =>
    obtain ⟨place, hm, hover⟩ := flush_mem_tasks.mp ha
    obtain ⟨⟨k, stage⟩, he, heq⟩ := List.mem_map.mp hm
    cases stage with
    | waiting segment response =>
      cases heq
      exact hspent k segment response he
    | ready | joining worker =>
      cases heq
      cases hover

/-! ## One call at a time -/

/-- In every play and between any two slices, a task that was overtaken leaves the session alone,
brings no cue about, and asks at most about the segment that it had taken out and was to hand over
next. Beside the calls of such tasks at most one worker's call waits for an answer; and at most one
call at all, if no flush was called while another one was under way and no worker was started while
a flush was busy. Move by move, the tasks that a reset has overtaken do no more than take their
answer, and the same bounds hold if nothing was fed while a flush waited for the model. -/
theorem one_call_at_a_time_since_reset (config : CueConfig) (clock : Millis) :
    (∀ before after : List (Beat Slice), (∀ b ∈ after, b.act.isReset = false) →
        let v := ((Sliced.new config clock).play before).1
        let w := (v.play after).1
        (∀ a ∈ v.overtaken, v.Inert a ∧ ∀ beats : List (Beat Slice),
          (callsOf (eventsBy (· = a) (v.play beats).2)).Sublist
            (questions config (v.next? a).toList)) ∧
          ((v.callsSince w).filter Actor.isWorker).length ≤ 1 ∧
          ((Sliced.new config clock).Ordered (before ++ after) → (v.callsSince w).length ≤ 1)) ∧
      ∀ before after : List (Beat Move),
        (before = [] ∨ ∃ first b, b.act.isReset = true ∧ before = first ++ [b]) →
        (∀ b ∈ after, b.act.isReset = false) →
          let v := ((World.new config clock).play before).1
          let w := (v.play after).1
          (∀ a ∈ v.sliced.overtaken, v.Inert a) ∧
            ((callsSince v w).filter Actor.isWorker).length ≤ 1 ∧
            ((World.new config clock).Ordered (before ++ after) →
              (callsSince v w).length ≤ 1) := by
  constructor
  · intro before after hafter v w
    have hv : Sliced.Sound v := (Sliced.sound_new config clock).play before
    have hw : Sliced.Divided v.overtaken w := hv.divided.play hafter
    have hconfig : v.session.config = config := Sliced.config_play _ before
    refine ⟨?_, worker_calls_le_one hw.nodup_calls fun id => hw.active_of_call, ?_⟩
    · intro a ha
      have hover := hv.overtaken_of_mem ha
      refine ⟨hover.inert hv, fun beats => ?_⟩
      rw [Sliced.callsOf_play, hconfig, ← hover.handed_play hv beats, questions_append]
      exact List.sublist_append_left _ _
    · intro hordered
      have hexclusive :=
        (Sliced.exclusive_new config clock).play (Sliced.sound_new config clock) hordered
      rw [Sliced.play_append] at hexclusive
      exact hw.calls_le_one hexclusive
  · intro before after hbefore hafter v w
    have hv : Sound v := sound_play config clock before
    have hw : Sound w := play_keeps (fun _ fails m h => h.step fails m) hv after
    have hsince : Since v w := (since_self v).play hv hafter
    refine ⟨?_, worker_calls_le_one (hw.outstanding_nodup.filter _) fun id => hsince.active_of_call,
      ?_⟩
    · intro a ha
      rcases hbefore with rfl | ⟨first, b, hb, rfl⟩
      · cases ha
      · have hstep : v = (((World.new config clock).play first).1.step b.fails b.act).1 := by
          show ((World.new config clock).play (first ++ [b])).1 = _
          rw [play_snoc]
        rw [hstep] at ha ⊢
        exact (sound_play config clock first).inert_of_overtaken b.fails hb ha
    · intro hordered
      have hexclusive := (exclusive_new config clock).play (sound_new config clock) hordered
      rw [play_append] at hexclusive
      exact hsince.calls_le_one hw hexclusive

/-- A worker waits since before the reset, and one of the new response beside it. Slice by slice the
old one had just drawn, and asks after the reset. -/
theorem one_call_at_a_time_beside_an_old_one :
    let config : CueConfig := { gestures := [], expressions := [] }
    let rain := "It rains here. Go".toList
    let snow := "It snows there. Go".toList
    let before : List (Beat Slice) :=
      [⟨.feed rain true, unfailing⟩, ⟨.workerTurn 0, unfailing⟩, ⟨.reset, unfailing⟩]
    let after : List (Beat Slice) :=
      [⟨.feed snow true, unfailing⟩, ⟨.workerTurn 0, unfailing⟩, ⟨.workerTurn 1, unfailing⟩,
        ⟨.workerTurn 1, unfailing⟩]
    let early : List (Beat Move) :=
      [⟨.feed rain true, unfailing⟩, ⟨.workerTurn 0, unfailing⟩, ⟨.reset, unfailing⟩]
    let late : List (Beat Move) := [⟨.feed snow true, unfailing⟩, ⟨.workerTurn 1, unfailing⟩]
    let v := ((Sliced.new config 0).play before).1
    let w := (v.play after).1
    let x := ((World.new config 0).play early).1
    let y := (x.play late).1
    (v.overtaken = [.worker 0] ∧ (callsOf (eventsBy (· = .worker 0) (v.play after).2)).length = 1 ∧
        v.Inert (.worker 0) ∧ w.outstanding = [.worker 0, .worker 1] ∧
        (v.callsSince w).length ≤ 1) ∧
      x.Inert (.worker 0) ∧ y.outstanding = [.worker 0, .worker 1] ∧ (callsSince x y).length ≤ 1 := by
  intro config rain snow before after early late v w x y
  obtain ⟨hslices, hmoves⟩ := one_call_at_a_time_since_reset config 0
  have hv : v.overtaken = [.worker 0] := by decide +kernel
  have hx : x.sliced.overtaken = [.worker 0] := by decide +kernel
  obtain ⟨hold, -, hone⟩ := hslices before after (by decide +kernel)
  obtain ⟨hinert, -, hsingle⟩ := hmoves early late
    (.inr ⟨[⟨.feed rain true, unfailing⟩, ⟨.workerTurn 0, unfailing⟩], ⟨.reset, unfailing⟩, rfl,
      rfl⟩)
    (by decide +kernel)
  refine ⟨⟨hv, by decide +kernel, (hold _ (hv ▸ List.mem_singleton_self _)).1, by decide +kernel,
    hone ?_⟩, hinert _ (hx ▸ List.mem_singleton_self _), by decide +kernel, hsingle ?_⟩
  all_goals decide +kernel

/-- A reset does not end a call, so a call of the next response may wait beside it. -/
theorem a_reset_leaves_two_calls_waiting :
    ¬ ∀ (fails : Trigger → Bool) (config : CueConfig) (clock : Millis) (ms : List Move),
      ((new config clock).run fails ms).1.outstanding.length ≤ 1 := by
  intro h
  have htwo : ((new { gestures := [], expressions := [] } 0).run (fun _ => false)
      [.feed "It rains here. Go".toList true, .workerTurn 0, .reset,
        .feed "It snows there. Go".toList true, .workerTurn 1]).1.outstanding.length = 2 := by
    decide +kernel
  have hone := h (fun _ => false) { gestures := [], expressions := [] } 0
    [.feed "It rains here. Go".toList true, .workerTurn 0, .reset,
      .feed "It snows there. Go".toList true, .workerTurn 1]
  omega

end World

end CueStream
