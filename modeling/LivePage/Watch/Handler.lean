/-
Handlers of changes.

A handler knows the places whose changes matter, what is to be rebuilt
after them, and for how long the files must be quiet before. It answers to
files that were modified, however their path is spelled, and to nothing
that happens to directories.

* `Seconds` — how long the files must be quiet;
* `Modification` — what a handler hears of;
* `Handler.sees` — whether a change at a place matters;
* `Handler.mapDebouncer` — a step of its timers.
-/
import LivePage.Build
import LivePage.Number.Shortest
import LivePage.Watch.Debouncer

namespace LivePage

/-- A number of seconds. -/
inductive Seconds where
  /-- A whole number. -/
  | whole (n : Int)
  /-- A double. -/
  | double (d : Double)
deriving DecidableEq, Repr

/-- A number of seconds as text; only a double has a point or an exponent. -/
def Seconds.text : Seconds → Text
  | .whole n => Text.ofInt n
  | .double d => d.text

/-- What a handler hears of. -/
inductive Modification where
  /-- A file was modified. -/
  | file (path : Path)
  /-- A directory was modified. -/
  | directory (path : Path)
deriving DecidableEq, Repr

/-- What answers to the changes of some files. -/
structure Handler where
  /-- The places whose changes matter, each once. -/
  places : List Location
  /-- What is rebuilt. -/
  pairs : Pairs
  /-- The frame of the documents. -/
  frame : Frame
  /-- The seconds of quiet before a rebuild. -/
  debounce : Seconds
  /-- Its timers. -/
  debouncer : Debouncer := {}
deriving DecidableEq, Repr

namespace Handler

/-- Whether a change at a place matters. -/
def sees (handler : Handler) (place : Location) : Bool :=
  handler.places.contains place

/-- The handler after a step of its timers. -/
def mapDebouncer (f : Debouncer → Debouncer) (handler : Handler) : Handler :=
  { handler with debouncer := f handler.debouncer }

/-- Whether a rebuild is to come. -/
def isPending (handler : Handler) : Bool :=
  handler.debouncer.held.isSome

end Handler

end LivePage
