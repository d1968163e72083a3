-- A gate lets one trigger of a channel through and then stays closed for a
-- while: for its window after each trigger, and for as long as a clip plays.
-- Looking at a gate changes nothing.
namespace CueStream

/-- A point in time or a length of time, in milliseconds of a 64-bit clock. -/
abbrev Millis := UInt64

/-- The end of a stretch of time. It stops at the last millisecond of the clock. -/
def Millis.plus (start length : Millis) : Millis :=
  UInt64.ofNat (min (start.toNat + length.toNat) (UInt64.size - 1))

/-- The gate of one channel. -/
structure Gate where
  /-- How long the gate stays closed after a trigger. -/
  window : Millis
  /-- When the last trigger passed. -/
  openedAt : Option Millis := none
  /-- When the clip that plays now ends. -/
  busyUntil : Option Millis := none
  deriving DecidableEq, Repr

namespace Gate

/-- The window after the last trigger is over. It is not while the clock is behind that trigger. -/
def rested (g : Gate) (now : Millis) : Bool :=
  g.openedAt.all fun t => t ≤ now && g.window ≤ now - t

/-- No clip plays. -/
def idle (g : Gate) (now : Millis) : Bool :=
  g.busyUntil.all (· ≤ now)

/-- A trigger at `now` would pass. -/
def allows (g : Gate) (now : Millis) : Bool :=
  g.rested now && g.idle now

/-- Notes that a trigger passed at `now`. -/
def opened (g : Gate) (now : Millis) : Gate :=
  { g with openedAt := some now }

/-- Notes at `now` that a clip plays until `stop`. A clip that still plays is never cut short;
one that is over is forgotten. -/
def busy (g : Gate) (now stop : Millis) : Gate :=
  { g with
    busyUntil := match g.busyUntil with
      | some current => if now < current then some (max current stop) else some stop
      | none => some stop }

/-- Lets a trigger through if the gate allows it: the gate afterwards, and whether it passed. -/
def tryOpen (g : Gate) (now : Millis) : Gate × Bool :=
  if g.allows now then (g.opened now, true) else (g, false)

/-- Forgets the last trigger and the clip. -/
def reset (g : Gate) : Gate :=
  { window := g.window }

/-! ## What an operation keeps -/

@[simp]
theorem window_tryOpen (g : Gate) (now : Millis) : (g.tryOpen now).1.window = g.window := by
  simp only [tryOpen]
  split <;> rfl

/-- A trigger passes exactly when the gate allows it. -/
@[simp]
theorem tryOpen_snd (g : Gate) (now : Millis) : (g.tryOpen now).2 = g.allows now := by
  simp only [tryOpen]
  split <;> simp_all

/-- A gate that lets nothing through is not changed. -/
theorem tryOpen_of_not_allows {g : Gate} {now : Millis} (h : g.allows now = false) :
    g.tryOpen now = (g, false) := by
  simp [tryOpen, h]

end Gate

end CueStream
