/-
Workspaces: files with the handlers that work on them.

A workspace holds the files, every handler that was set up, the timers that
the handlers started, in order, and the records of what was done. A handler
is named by its number, and so is a timer.

* `Workspace.addHandler` — sets up a handler;
* `Workspace.modified`, `Workspace.schedule`, `Workspace.cancel`,
  `Workspace.rebuild` — the steps of a handler;
* `Workspace.fire?` — a timer elapses, and its handler rebuilds;
* `Workspace.timers` — all timers.
-/
import LivePage.Watch.Handler

namespace LivePage

/-- A timer, as the workspace names it. -/
structure TimerRef where
  /-- The number of its handler. -/
  handler : Nat
  /-- Its number among the timers of that handler. -/
  index : Nat
deriving DecidableEq, Repr

/-- Files with the handlers that work on them. -/
structure Workspace where
  /-- The files. -/
  tree : FileTree
  /-- The handlers that were set up. -/
  handlers : List Handler := []
  /-- The timers, in the order in which they were started. -/
  started : List TimerRef := []
  /-- What was done. -/
  records : List Record := []
deriving DecidableEq, Repr

namespace Workspace

/-- Adds a record. -/
def record (ws : Workspace) (level : Level) (message : RawText) : Workspace :=
  { ws with records := ws.records ++ [⟨level, message⟩] }

/-- Builds pairs from the files of the workspace. -/
def build (ws : Workspace) (frame : Frame) (pairs : Pairs) : Workspace × Nat × Option FileFault :=
  let (state, fault?) := LivePage.build frame ws.tree pairs
  ({ ws with tree := state.tree, records := ws.records ++ state.records }, state.written, fault?)

/-- Sets up a handler. Its number is the number of handlers before. -/
def addHandler (ws : Workspace) (places : List Location) (pairs : Pairs) (frame : Frame)
    (debounce : Seconds) : Workspace :=
  let handler : Handler := { places := places.eraseDups, pairs, frame, debounce }
  let ws := { ws with handlers := ws.handlers ++ [handler] }
  ws.record .info (raw "Handler initialized. Monitoring for changes...")

/-- The handler of a number takes a step of its timers. -/
def mapDebouncer (ws : Workspace) (n : Nat) (f : Debouncer → Debouncer) : Workspace :=
  { ws with handlers := ws.handlers.modify n (Handler.mapDebouncer f) }

/-- Restarts the timer of a handler. -/
def schedule (ws : Workspace) (n : Nat) : Workspace :=
  match ws.handlers[n]? with
  | none => ws
  | some handler =>
    { ws.mapDebouncer n Debouncer.schedule with
      started := ws.started ++ [⟨n, handler.debouncer.timers.length⟩] }

/-- Stops the timer of a handler. -/
def cancel (ws : Workspace) (n : Nat) : Workspace :=
  ws.mapDebouncer n Debouncer.cancel

/-- Builds what a handler is there for, after it let go of its timer. -/
def rebuild (ws : Workspace) (n : Nat) : Workspace × Option FileFault :=
  match ws.handlers[n]? with
  | none => (ws, none)
  | some handler =>
    let (ws, _, fault?) := (ws.mapDebouncer n Debouncer.release).build handler.frame handler.pairs
    (ws, fault?)

/-- A handler hears of a modification. That of a directory is passed over. -/
def modified (ws : Workspace) (n : Nat) : Modification → Workspace × Option FileFault
  | .directory _ => (ws, none)
  | .file path =>
    match ws.tree.resolve path with
    | .error fault => (ws, some fault)
    | .ok place =>
      match ws.handlers[n]? with
      | none => (ws, none)
      | some handler =>
        if handler.sees place then
          ((ws.record .info (raw "Detected modification in: " ++ place.text)).schedule n, none)
        else (ws, none)

/-- The timer of a number; a negative number counts from the end. -/
def timer? (ws : Workspace) (i : Int) : Option TimerRef :=
  let n := if i < 0 then i + ws.started.length else i
  if n < 0 then none else ws.started[n.toNat]?

/-- Lets a timer elapse: it is marked, and then its handler rebuilds. Nothing happens unless the
timer runs. -/
def fire? (ws : Workspace) (i : Int) : Option (Workspace × Option FileFault) := do
  let ref ← ws.timer? i
  let handler ← ws.handlers[ref.handler]?
  let debouncer ← handler.debouncer.elapse? ref.index
  some ((ws.mapDebouncer ref.handler fun _ => debouncer).rebuild ref.handler)

/-- All timers in the order in which they were started: the seconds after which each elapses, and
how it stands. -/
def timers (ws : Workspace) : List (Seconds × TimerStatus) :=
  ws.started.filterMap fun ref => do
    let handler ← ws.handlers[ref.handler]?
    let status ← handler.debouncer.timers[ref.index]?
    some (handler.debounce, status)

/-- Whether a rebuild of a handler is to come. -/
def isPending (ws : Workspace) (n : Nat) : Bool :=
  (ws.handlers[n]?.map Handler.isPending).getD false

end Workspace

end LivePage
