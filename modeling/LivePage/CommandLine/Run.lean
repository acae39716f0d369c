/-
Runs of the command.

A run reads its command line and then builds once, or watches. A run that
builds once ends with status 0 if every pair was written and with 1
otherwise; a fault ends it without a status. A run that watches survives
every fault of its own: it tells the user, waits three seconds and begins
again with the configuration as it is then.

* `Workspace.buildOnce` — the number of pairs that were written;
* `Run.attempt` — one attempt to watch;
* `Run.retry` — attempts until one ends without a fault;
* `Workspace.runCommand` — the whole command.
-/
import LivePage.CommandLine.Request
import LivePage.Watch.Watcher

namespace LivePage

/-- Why a run fails. -/
inductive RunFault where
  /-- There is no configuration. -/
  | config (fault : ConfigFault)
  /-- A file cannot be read or written. -/
  | file (fault : FileFault)

/-- The wording of a fault, if it has one. -/
def RunFault.message? : RunFault → Option Text
  | .config fault => fault.message?
  | .file fault => some fault.message

/-- How a run ends. -/
inductive RunEnd where
  /-- With a status. -/
  | exit (status : Nat)
  /-- It is ended from outside. -/
  | stopped
  /-- With a fault. -/
  | failed (fault : RunFault)

/-- A run as far as it went. -/
structure Run where
  /-- The workspace. -/
  workspace : Workspace
  /-- The events that are still to come. -/
  events : List Event := []
  /-- What was done beside the work on files. -/
  actions : List Action := []
  /-- What was printed. -/
  output : Text := []
  /-- What was printed about faults of the command line. -/
  errors : Text := []

/-- What a configuration has to say about its pairs: how many there are, and how many of them a
build wrote. -/
structure BuildCount where
  /-- The pairs. -/
  pairs : Nat
  /-- The pairs that were written. -/
  written : Nat
deriving DecidableEq, Repr

/-- The status of a run that built once: 0 if every pair was written, and 1 otherwise. -/
def BuildCount.status (count : BuildCount) : Nat :=
  if count.written = count.pairs then 0 else 1

/-- Builds the pairs of a configuration once. -/
def Workspace.buildOnce (ws : Workspace) (config : Path) (read : Yaml.Reader := Yaml.load) :
    Workspace × Except RunFault BuildCount :=
  match Config.load ws.tree config read with
  | .error fault => (ws, .error (.config fault))
  | .ok config =>
    match ws.build config.frame config.pairs with
    | (ws, _, some fault) => (ws, .error (.file fault))
    | (ws, written, none) => (ws, .ok ⟨config.pairs.length, written⟩)

/-- What the user is told about a fault before the next attempt. -/
def RunFault.notice (fault : RunFault) : Text :=
  "Error: ".toList ++ fault.message?.getD [] ++
    ("\nPlease check your configuration and try again, " ++
      "attempting to reload in 3 seconds...\n").toList

namespace Run

/-- One attempt to watch, and the fault that ended it. -/
def attempt (run : Run) (config : Path) (read : Yaml.Reader) : Run × Option RunFault :=
  match Config.load run.workspace.tree config read with
  | .error fault => (run, some (.config fault))
  | .ok config =>
    let result := run.workspace.watch config run.events
    ({ run with
        workspace := result.workspace
        events := result.events
        actions := run.actions ++ result.actions },
      result.fault?.map .file)

/-- The run after a fault: the user is told, and three seconds pass. -/
def wait (run : Run) (fault : RunFault) : Run :=
  { run with output := run.output ++ fault.notice, actions := run.actions ++ [.sleep] }

/-- The run after changes of the files from outside, and why they went no further. -/
def apply (run : Run) (changes : List Change) : Run × Option FileFault :=
  let ws := run.workspace
  let (tree, fault?) := ws.tree.applyAll changes
  ({ run with workspace := { ws with tree } }, fault?)

/-- Attempts to watch until one ends without a fault. Each wait brings the next changes from
outside, and one that fails ends the run; the run is stopped in the wait that brings none. -/
def retry (run : Run) (config : Path) (read : Yaml.Reader) : List (List Change) → Run × RunEnd
  | [] =>
    match run.attempt config read with
    | (run, none) => (run, .exit 0)
    | (run, some fault) => (run.wait fault, .stopped)
  | changes :: rest =>
    match run.attempt config read with
    | (run, none) => (run, .exit 0)
    | (run, some fault) =>
      match (run.wait fault).apply changes with
      | (run, none) => run.retry config read rest
      | (run, some fault) => (run, .failed (.file fault))

end Run

/-- Runs the command with the events that happen while it watches and the changes that the waits
between its attempts bring. Configurations are read by a reader. -/
def Workspace.runCommand (ws : Workspace) (arguments : List Text) (events : List Event)
    (waits : List (List Change)) (read : Yaml.Reader := Yaml.load) : Run × RunEnd :=
  let run : Run := { workspace := ws, events }
  match Request.ofArguments arguments with
  | .help => ({ run with output := helpText }, .exit 0)
  | .misuse fault => ({ run with errors := fault.report }, .exit 2)
  | .once config =>
    match ws.buildOnce (.ofText config.raw) read with
    | (ws, .ok count) => ({ run with workspace := ws }, .exit count.status)
    | (ws, .error fault) => ({ run with workspace := ws }, .failed fault)
  | .watch config => run.retry (.ofText config.raw) read waits

/-- What is noted of an action: the waits, and the end of the observer. -/
def Action.note? : Action → Option Text
  | .sleep => some "sleep 3".toList
  | .stop => some "observer stop".toList
  | .join => some "observer join".toList
  | _ => none

/-- The directories that each observer looked at, one list an observer. -/
def observedDirectories (actions : List Action) : List (List Location) :=
  ((cut (· == .makeObserver) actions).drop 1).map fun part =>
    part.filterMap fun
      | .observe directory => some directory
      | _ => none

end LivePage
