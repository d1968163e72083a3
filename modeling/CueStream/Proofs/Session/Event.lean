-- What can be told from the events of a run: the segments that were handed
-- over, the questions to the model, its answers, and the cues that it named.
import CueStream.Session.World

namespace CueStream

namespace Event

/-- An answer that arrives, or the end of a task. Neither does anything to a response. -/
def isQuiet : Event → Bool
  | answered _ _ => true
  | ended _ => true
  | _ => false

/-- A cue passes its gate or reaches the receiver. -/
def isCue : Event → Bool
  | admitted _ _ _ => true
  | delivered _ _ => true
  | broke _ _ => true
  | _ => false

/-- The segment that was handed over for classification. -/
def segment? : Event → Option Segment
  | submitted _ segment => some segment
  | _ => none

/-- The question that the model was asked. -/
def call? : Event → Option Classifier.Call
  | asked _ call => some call
  | _ => none

/-- The answer that the model gave. -/
def answer? : Event → Option Answer
  | answered _ a => some a
  | _ => none

/-- The flush that took the rest out of the buffer. -/
def drained? : Event → Option Nat
  | drained id => some id
  | _ => none

/-- The cue that the receiver took, if the model had named it. -/
def cue? : Event → Option Trigger
  | delivered .feeder _ => none
  | delivered _ t => some t
  | _ => none

/-- Who brought it about. -/
def actor : Event → Actor
  | admitted a _ _ => a
  | delivered a _ => a
  | broke a _ => a
  | submitted a _ => a
  | asked a _ => a
  | answered a _ => a
  | drained id => .flush id
  | ended a => a

end Event

/-- The segments that were handed over for classification, in order. -/
def segmentsOf (events : List Event) : List Segment :=
  events.filterMap Event.segment?

/-- The questions that the model was asked, in order. -/
def callsOf (events : List Event) : List Classifier.Call :=
  events.filterMap Event.call?

/-- The answers that the model gave, in order. -/
def answersOf (events : List Event) : List Answer :=
  events.filterMap Event.answer?

/-- The cues that the receiver took and that the model had named, in order. -/
def cuesOf (events : List Event) : List Trigger :=
  events.filterMap Event.cue?

/-- The events that these actors brought about, in order. -/
def eventsBy (who : Actor → Bool) (events : List Event) : List Event :=
  events.filter fun e => who e.actor

/-- The questions about segments. A segment that is too short for the model is not asked about. -/
def questions (config : CueConfig) (segments : List Segment) : List Classifier.Call :=
  segments.filterMap fun segment => Classifier.call? config segment.text

@[simp]
theorem questions_append (config : CueConfig) (a b : List Segment) :
    questions config (a ++ b) = questions config a ++ questions config b :=
  List.filterMap_append

theorem questions_of_some {config : CueConfig} {segment : Segment} {call : Classifier.Call}
    (h : Classifier.call? config segment.text = some call) :
    questions config [segment] = [call] := by
  unfold questions
  rw [List.filterMap_cons, h, List.filterMap_nil]

theorem questions_of_none {config : CueConfig} {segment : Segment}
    (h : Classifier.call? config segment.text = none) : questions config [segment] = [] := by
  unfold questions
  rw [List.filterMap_cons, h, List.filterMap_nil]

@[simp]
theorem segmentsOf_append (a b : List Event) : segmentsOf (a ++ b) = segmentsOf a ++ segmentsOf b :=
  List.filterMap_append

@[simp]
theorem callsOf_append (a b : List Event) : callsOf (a ++ b) = callsOf a ++ callsOf b :=
  List.filterMap_append

@[simp]
theorem answersOf_append (a b : List Event) : answersOf (a ++ b) = answersOf a ++ answersOf b :=
  List.filterMap_append

@[simp]
theorem cuesOf_append (a b : List Event) : cuesOf (a ++ b) = cuesOf a ++ cuesOf b :=
  List.filterMap_append

theorem segmentsOf_nil : segmentsOf [] = [] := rfl

@[simp]
theorem eventsBy_append (who : Actor → Bool) (a b : List Event) :
    eventsBy who (a ++ b) = eventsBy who a ++ eventsBy who b :=
  List.filter_append a b

/-- Where one actor brought everything about, it counts as a whole or not at all. -/
theorem eventsBy_of_actor {a : Actor} {events : List Event} (h : ∀ e ∈ events, e.actor = a)
    (who : Actor → Bool) : eventsBy who events = if who a then events else [] := by
  unfold eventsBy
  split
  · rename_i hwho
    exact List.filter_eq_self.mpr fun e he => h e he ▸ hwho
  · rename_i hwho
    exact List.filter_eq_nil_iff.mpr fun e he => h e he ▸ hwho

/-- Where there are no cues, a view of the cues is empty. -/
theorem filterMap_of_no_cue {α : Type} {f : Event → Option α}
    (hf : ∀ e : Event, e.isCue = false → f e = none) {events : List Event}
    (h : ∀ e ∈ events, e.isCue = false) : events.filterMap f = [] :=
  List.filterMap_eq_nil_iff.mpr fun e he => hf e (h e he)

/-! ## Cues on their way -/

theorem mem_of_mem_deliver {fails : Trigger → Bool} {a : Actor} {ts : List Trigger} {e : Event}
    (h : e ∈ (deliver fails a ts).1) : ∃ t ∈ ts, e = .delivered a t ∨ e = .broke a t := by
  induction ts with
  | nil => cases h
  | cons u rest ih =>
    simp only [deliver] at h
    split at h
    · exact ⟨u, List.mem_cons_self, .inr (List.mem_singleton.mp h)⟩
    · rcases List.mem_cons.mp h with rfl | h
      · exact ⟨u, List.mem_cons_self, .inl rfl⟩
      · obtain ⟨t, ht, he⟩ := ih h
        exact ⟨t, List.mem_cons_of_mem u ht, he⟩

/-- Cues that pass the gates and reach the receiver do so on behalf of one actor. -/
theorem actor_of_cues {fails : Trigger → Bool} {a : Actor} {ts : List Trigger} {time : Millis}
    {e : Event} (h : e ∈ ts.map (Event.admitted a · time) ++ (deliver fails a ts).1) :
    e.actor = a := by
  rcases List.mem_append.mp h with h | h
  · obtain ⟨t, -, rfl⟩ := List.mem_map.mp h
    rfl
  · obtain ⟨t, -, rfl | rfl⟩ := mem_of_mem_deliver h <;> rfl

section Silent

variable {α : Type} {f : Event → Option α} {a : Actor}

/-- Handing over cues shows nothing but the cues. -/
theorem filterMap_deliver (hf : ∀ t, f (.delivered a t) = none ∧ f (.broke a t) = none)
    (fails : Trigger → Bool) (ts : List Trigger) : (deliver fails a ts).1.filterMap f = [] := by
  induction ts with
  | nil => rfl
  | cons t rest ih =>
    simp only [deliver]
    split
    · simp [(hf t).2]
    · simp [(hf t).1, ih]

theorem filterMap_admitted (ha : ∀ t time, f (.admitted a t time) = none) (ts : List Trigger)
    (time : Millis) : (ts.map (Event.admitted a · time)).filterMap f = [] := by
  rw [List.filterMap_map]
  exact List.filterMap_eq_nil_iff.mpr fun t _ => ha t time

theorem Session.filterMap_emit (hf : ∀ t, f (.delivered a t) = none ∧ f (.broke a t) = none)
    (ha : ∀ t time, f (.admitted a t time) = none) (fails : Trigger → Bool) (s : Session)
    (ts : List Trigger) : (s.emit fails a ts).2.1.filterMap f = [] := by
  unfold Session.emit
  simp only [List.filterMap_append, filterMap_deliver hf, filterMap_admitted ha, List.append_nil]

end Silent

namespace Session

variable (fails : Trigger → Bool) (a : Actor) (s : Session) (ts : List Trigger)

@[simp]
theorem segmentsOf_emit : segmentsOf (s.emit fails a ts).2.1 = [] :=
  filterMap_emit (fun _ => ⟨rfl, rfl⟩) (fun _ _ => rfl) fails s ts

@[simp]
theorem callsOf_emit : callsOf (s.emit fails a ts).2.1 = [] :=
  filterMap_emit (fun _ => ⟨rfl, rfl⟩) (fun _ _ => rfl) fails s ts

@[simp]
theorem answersOf_emit : answersOf (s.emit fails a ts).2.1 = [] :=
  filterMap_emit (fun _ => ⟨rfl, rfl⟩) (fun _ _ => rfl) fails s ts

end Session

namespace World

variable (fails : Trigger → Bool) (w : World) (chunk : Text) (canWork : Bool)

/-- The keywords in fed text are acted out, and that is all that feeding shows. -/
theorem filterMap_feed {α : Type} {f : Event → Option α}
    (hf : ∀ t, f (.delivered .feeder t) = none ∧ f (.broke .feeder t) = none)
    (ha : ∀ t time, f (.admitted .feeder t time) = none) :
    (w.feed fails chunk canWork).2.filterMap f = [] := by
  unfold World.feed
  simp only [List.filterMap_append, filterMap_deliver hf, filterMap_admitted ha, List.append_nil]

theorem segmentsOf_feed : segmentsOf (w.feed fails chunk canWork).2 = [] :=
  filterMap_feed fails w chunk canWork (fun _ => ⟨rfl, rfl⟩) fun _ _ => rfl

theorem callsOf_feed : callsOf (w.feed fails chunk canWork).2 = [] :=
  filterMap_feed fails w chunk canWork (fun _ => ⟨rfl, rfl⟩) fun _ _ => rfl

theorem answersOf_feed : answersOf (w.feed fails chunk canWork).2 = [] :=
  filterMap_feed fails w chunk canWork (fun _ => ⟨rfl, rfl⟩) fun _ _ => rfl

theorem cuesOf_feed : cuesOf (w.feed fails chunk canWork).2 = [] :=
  filterMap_feed fails w chunk canWork (fun _ => ⟨rfl, rfl⟩) fun _ _ => rfl

end World

end CueStream
