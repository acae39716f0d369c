/-
Debouncing: one rebuild after a burst of changes.

Each change starts a timer and cancels the one before it, so a timer
elapses only after the files have been quiet for its whole interval. The
elapse of a timer and the moment at which its rebuild lets go of it are
steps of their own: a change can fall between them.

* `Debouncer.schedule` — restarts the timer;
* `Debouncer.elapse?` — a timer elapses, if it runs;
* `Debouncer.release` — a rebuild begins and no timer is held;
* `Debouncer.cancel` — no timer runs or is held.
-/

namespace LivePage

/-- How a timer stands. -/
inductive TimerStatus where
  /-- It has started and not yet elapsed. -/
  | running
  /-- It was stopped before it elapsed. -/
  | cancelled
  /-- It has elapsed. -/
  | fired
deriving DecidableEq, Repr

/-- Stops a timer. One that has elapsed stays so. -/
def TimerStatus.cancel : TimerStatus → TimerStatus
  | .running => .cancelled
  | status => status

/-- The timers that were started, in order, and the one that the next change restarts. -/
structure Debouncer where
  /-- How each timer stands. -/
  timers : List TimerStatus := []
  /-- The timer that is held. -/
  held : Option Nat := none
deriving DecidableEq, Repr

namespace Debouncer

/-- The timers after the one that is held was stopped. -/
def stopHeld (d : Debouncer) : List TimerStatus :=
  match d.held with
  | none => d.timers
  | some i => d.timers.modify i TimerStatus.cancel

/-- Stops the timer that is held and starts another one. -/
def schedule (d : Debouncer) : Debouncer :=
  { timers := d.stopHeld ++ [.running], held := some d.timers.length }

/-- Stops the timer that is held and holds none. -/
def cancel (d : Debouncer) : Debouncer :=
  { timers := d.stopHeld, held := none }

/-- Holds no timer and stops none. -/
def release (d : Debouncer) : Debouncer :=
  { d with held := none }

/-- Lets a timer elapse. Only one that runs does. -/
def elapse? (d : Debouncer) (i : Nat) : Option Debouncer :=
  if d.timers[i]? = some .running then some { d with timers := d.timers.set i .fired }
  else none

end Debouncer

end LivePage
