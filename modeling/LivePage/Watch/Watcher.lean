/-
Watching: rebuilding while the files change.

A watcher builds everything once, sets up a handler, and has an observer
look at each existing directory that holds a file whose changes matter.
Then it answers to events until the observer ends, it is interrupted, or a
change or a rebuild fails. However it ends, the timers of its handler are stopped, an
observer that is still alive is stopped, and its end is awaited.

* `Event` — what can happen while files are watched;
* `Action` — what is asked of the observer;
* `Workspace.setUp` — from a configuration to a watcher;
* `Workspace.play` — answers to events;
* `Workspace.tearDown` — the end of a watcher;
* `Workspace.watch` — all of it.
-/
import LivePage.Config
import LivePage.Files.Change
import LivePage.Watch.Workspace

namespace LivePage

/-- What can happen while files are watched. -/
inductive Event where
  /-- A file is written. -/
  | modify (path : RawText) (content : Bytes)
  /-- A timer elapses. -/
  | fire (i : Int)
  /-- The user ends the run. -/
  | interrupt
deriving DecidableEq, Repr

/-- What a run does beside its work on files. -/
inductive Action where
  /-- An observer is made. -/
  | makeObserver
  /-- The observer is to look at the files in a directory, and not below it. -/
  | observe (directory : Location)
  /-- The observer begins. -/
  | start
  /-- The observer is to end. -/
  | stop
  /-- The end of the observer is awaited. -/
  | join
  /-- Three seconds pass. -/
  | sleep
deriving DecidableEq, Repr

/-- A watcher: the number of its handler and the directories that its observer looks at. -/
structure Watcher where
  /-- The number of its handler. -/
  handler : Nat
  /-- The directories that its observer looks at. -/
  directories : List Location
deriving DecidableEq, Repr

/-- Why a watcher ended. -/
inductive Ending where
  /-- The observer ended by itself. -/
  | observerEnded
  /-- The user ended the run. -/
  | interrupted
  /-- A change or a rebuild failed. -/
  | failed (fault : FileFault)
deriving DecidableEq, Repr

/-- Whether the observer is still alive. -/
def Ending.leavesObserver : Ending → Bool
  | .observerEnded => false
  | _ => true

/-- The fault that a watcher ended with. -/
def Ending.fault? : Ending → Option FileFault
  | .failed fault => some fault
  | _ => none

/-- All files whose changes matter. -/
def Config.files (config : Config) : List Path :=
  config.pairs.map Prod.fst ++ config.watch

/-- The directories that hold some places, each once. -/
def directoriesOf (places : List Location) : List Location :=
  (places.map List.dropLast).eraseDups

/-- The directories among some places. -/
def FileTree.existing (tree : FileTree) (places : List Location) :
    Except FileFault (List Location) :=
  places.filterM fun place => do .ok ((← tree.look? place.path) == some .directory)

/-- What is recorded about a directory that is to be watched, given the ones that are. -/
def directoryRecord (found : List Location) (directory : Location) : Record :=
  if found.contains directory then
    ⟨.info, raw "Scheduled watcher for directory: " ++ directory.text⟩
  else
    ⟨.warning,
      raw "Directory '" ++ directory.text ++ raw "' does not exist. Cannot watch."⟩

/-- What is recorded when watching begins. -/
def watchingMessage (count : Nat) : Text :=
  "Watching for file changes in ".toList ++ Text.ofNat count ++
    (if count = 1 then " directory" else " directories").toList ++
    ". Press Ctrl+C to stop.".toList

namespace Workspace

/-- Builds everything once and sets up the handler of a configuration. The result has the
directories that hold the files whose changes matter. -/
def prepare (ws : Workspace) (config : Config) : Workspace × Except FileFault (List Location) :=
  match ws.tree.resolveAll config.files with
  | .error fault => (ws, .error fault)
  | .ok places =>
    match ws.build config.frame config.pairs with
    | (ws, _, some fault) => (ws, .error fault)
    | (ws, _, none) =>
      (ws.addHandler places config.pairs config.frame (.double config.debounce),
        .ok (directoriesOf places))

/-- Records, for each directory that is to be watched, whether it is, in the order of the
lines. -/
def recordDirectories (ws : Workspace) (directories found : List Location) : Workspace :=
  let records := directories.map (directoryRecord found)
  { ws with records := ws.records ++ records.mergeSort fun r s => RawText.atMost r.line s.line }

/-- Has an observer look at the directories that exist. -/
def observe (ws : Workspace) (directories found : List Location) :
    Workspace × List Action × Option Watcher :=
  let observed := Action.makeObserver :: found.map .observe
  let ws := ws.recordDirectories directories found
  if found.isEmpty then
    (ws.record .error (raw "No watchers were successfully scheduled. Exiting."), observed, none)
  else
    (ws.record .info (watchingMessage found.length).raw, observed ++ [.start],
      some { handler := ws.handlers.length - 1, directories := found })

/-- Sets up the watcher of a configuration. There is none if no directory can be watched. -/
def setUp (ws : Workspace) (config : Config) :
    Workspace × List Action × Except FileFault (Option Watcher) :=
  match ws.prepare config with
  | (ws, .error fault) => (ws, [], .error fault)
  | (ws, .ok directories) =>
    match ws.tree.existing directories with
    | .error fault => (ws, [.makeObserver], .error fault)
    | .ok found =>
      let (ws, actions, watcher?) := ws.observe directories found
      (ws, actions, .ok watcher?)

/-- A watcher answers to one event. The result has the ending, if it is one. -/
def answer (ws : Workspace) (watcher : Watcher) : Event → Workspace × Option Ending
  | .modify t content =>
    match ws.tree.apply (.write t content) with
    | (tree, some fault) => ({ ws with tree }, some (.failed fault))
    | (tree, none) =>
      let ws := { ws with tree }
      let path := Path.ofText t
      if watcher.directories.contains (path.resolve tree.working).dropLast then
        let (ws, fault?) := ws.modified watcher.handler (.file path)
        (ws, fault?.map .failed)
      else (ws, none)
  | .fire i =>
    match ws.fire? i with
    | none => (ws, none)
    | some (ws, fault?) => (ws, fault?.map .failed)
  | .interrupt => (ws, some .interrupted)

/-- A watcher answers to events until one ends it or none is left. The result has the events
that are still to come. -/
def play (ws : Workspace) (watcher : Watcher) : List Event → Workspace × Ending × List Event
  | [] => (ws, .observerEnded, [])
  | event :: rest =>
    match ws.answer watcher event with
    | (ws, some ending) => (ws, ending, rest)
    | (ws, none) => ws.play watcher rest

/-- Ends a watcher: its timer and its observer are stopped. -/
def tearDown (ws : Workspace) (watcher : Watcher) (ending : Ending) : Workspace × List Action :=
  let ws :=
    if ending = .interrupted then ws.record .info (raw "Stopping watcher (Ctrl+C pressed)...")
    else ws
  let stops := if ending.leavesObserver then [Action.stop] else []
  ((ws.cancel watcher.handler).record .info (raw "Watcher stopped completely."),
    stops ++ [.join])

end Workspace

/-- How watching went. -/
structure WatchResult where
  /-- The workspace at the end. -/
  workspace : Workspace
  /-- What was done, in order. -/
  actions : List Action
  /-- The events that are still to come. -/
  events : List Event
  /-- The fault that ended it. -/
  fault? : Option FileFault
deriving DecidableEq, Repr

/-- Watches the files of a configuration while events happen. -/
def Workspace.watch (ws : Workspace) (config : Config) (events : List Event) : WatchResult :=
  match ws.setUp config with
  | (ws, actions, .error fault) => ⟨ws, actions, events, some fault⟩
  | (ws, actions, .ok none) => ⟨ws, actions, events, none⟩
  | (ws, actions, .ok (some watcher)) =>
    let (ws, ending, events) := ws.play watcher events
    let (ws, last) := ws.tearDown watcher ending
    ⟨ws, actions ++ last, events, ending.fault?⟩

end LivePage
