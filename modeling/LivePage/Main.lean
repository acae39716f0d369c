/-
The command.

The logic of a run is a function of the files, so the command takes a
picture of the files that matter, asks that function, and carries out what
it says. While it watches, it looks at the files every tenth of a second:
a content that changed is a modification, and a timer elapses when its
seconds have passed.

* `picture` — the files that a configuration speaks of;
* `store` — carries changes over to the disk;
* `attend` — answers to what happens while files are watched;
* `main` — the command.
-/
import LivePage.CommandLine.Run

namespace LivePage.Terminal

/-- A raw text for the terminal. -/
def shown (t : RawText) : String :=
  String.ofList (t.map fun point => point.char?.getD '\uFFFD')

/-- A place as the system names it. -/
def systemName (place : Location) : String :=
  shown place.text

/-- What is at a place on the disk. The content of a file is read if it is wanted. -/
def onDisk? (place : Location) (wanted : Bool) : IO (Option Entry) := do
  let name := System.mkFilePath [systemName place]
  if ← name.isDir then return some .directory
  else if ← name.pathExists then
    if wanted then return some (.file (← IO.FS.readBinFile name).toList)
    else return some (.file [])
  else return none

/-- A picture with one more place. -/
def addPlace (tree : FileTree) (place : Location) (wanted : Bool) : IO FileTree := do
  match ← onDisk? place wanted with
  | some entry => return tree.set place entry
  | none => return tree

/-- A picture with every place that opening a path leads through. -/
def addPath (tree : FileTree) (path : Path) : IO FileTree := do
  if (pathFault? path.text).isSome then return tree
  let mut tree := tree
  for n in List.range (path.parts.length + 1) do
    let place := Path.resolve tree.working ⟨path.anchor, path.parts.take n⟩
    tree ← addPlace tree place (n == path.parts.length)
  return tree

/-- A picture with all that is below a directory, files without their content. -/
partial def addBelow (tree : FileTree) (directory : Location) : IO FileTree := do
  let mut tree := tree
  for entry in ← (System.mkFilePath [systemName directory]).readDir do
    let place := directory ++ [raw entry.fileName]
    tree ← addPlace tree place false
    if tree.isDirectory place then tree ← addBelow tree place
  return tree

/-- The files that the configuration at a path speaks of. -/
def picture (config : Path) : IO FileTree := do
  let working := Path.resolve [] (.ofText (raw (← IO.currentDir).toString))
  let mut tree : FileTree := { working, entries := [] }
  tree ← addPath tree working.path
  tree ← addPath tree config.parent
  let directory := config.parent.resolve working
  if tree.isDirectory directory then tree ← addBelow tree directory
  tree ← addPath tree config
  match Config.load tree config with
  | .error _ => return tree
  | .ok config =>
    for path in config.files ++ config.pairs.map Prod.snd do
      tree ← addPath tree path
    return tree

/-- Writes the files that differ from an earlier picture. -/
def store (before after : FileTree) : IO Unit := do
  for (place, entry) in after.entries do
    if before.find? place != some entry then
      match entry with
      | .file content => IO.FS.writeBinFile (systemName place) ⟨content.toArray⟩
      | .directory => pure ()

/-- Prints the records that matter at least so much. -/
def printRecords (records : List Record) (levels : List Level) : IO Unit := do
  for record in records do
    if levels.contains record.level then IO.eprintln (shown record.message)

/-- The whole milliseconds in a number of seconds; none if they never end. -/
def milliseconds : Double → Option Nat
  | .finite true _ _ => some 0
  | .finite false mantissa exponent =>
    some (mantissa * 1000 * powerOf 2 exponent / powerOf 2 (-exponent))
  | .infinite negative => if negative then some 0 else none
  | .nan => none

/-- What is printed while files are watched. -/
def watchLevels : List Level :=
  [.info, .warning, .error]

/-- Prints the records of a workspace, and stores what differs from an earlier picture. -/
def carryOut (before : FileTree) (ws : Workspace) : IO Workspace := do
  printRecords ws.records watchLevels
  store before ws.tree
  return { ws with records := [] }

/-- The changes of the files that a watcher looks at. -/
def changes (ws : Workspace) (watcher : Watcher) : IO (List Event) := do
  let mut events := []
  for place in (ws.handlers[watcher.handler]?.map Handler.places).getD [] do
    match ← onDisk? place true with
    | some (.file content) =>
      if ws.tree.find? place != some (.file content) then
        events := events ++ [.modify place.text content]
    | _ => pure ()
  return events

/-- The timers whose seconds have passed. -/
def elapsed (ws : Workspace) (starts : List Nat) (now : Nat) : List Event :=
  (ws.timers.zip starts).zipIdx.filterMap fun (((debounce, status), start), i) => do
    let duration ←
      match debounce with
      | .whole n => some (n.toNat * 1000)
      | .double d => milliseconds d
    if status = .running ∧ start + duration ≤ now then some (.fire i) else none

/-- Answers to what happens until it ends the watcher. The start of each timer is remembered. -/
partial def attend (ws : Workspace) (watcher : Watcher) (starts : List Nat) :
    IO (Workspace × Ending) := do
  IO.sleep 100
  let now ← IO.monoMsNow
  let mut ws := ws
  for event in (← changes ws watcher) ++ elapsed ws starts now do
    let (next, ending?) := ws.answer watcher event
    let seen :=
      match event with
      | .modify path content => (ws.tree.apply (.write path content)).1
      | _ => ws.tree
    ws ← carryOut seen next
    if let some ending := ending? then return (ws, ending)
  attend ws watcher (starts ++ List.replicate (ws.started.length - starts.length) now)

/-- One attempt to watch, and the fault that ended it. -/
def attempt (config : Path) : IO (Option RunFault) := do
  let tree ← picture config
  match Config.load tree config with
  | .error fault => return some (.config fault)
  | .ok config =>
    let (ws, _, watcher) := Workspace.setUp { tree } config
    let ws ← carryOut tree ws
    match watcher with
    | .error fault => return some (.file fault)
    | .ok none => return none
    | .ok (some watcher) =>
      let (ws, ending) ← attend ws watcher []
      discard <| carryOut ws.tree (ws.tearDown watcher ending).1
      return ending.fault?.map .file

/-- Attempts to watch until one ends without a fault. -/
partial def watch (config : Path) : IO UInt32 := do
  match ← attempt config with
  | none => return 0
  | some fault =>
    IO.print (String.ofList fault.notice)
    IO.sleep 3000
    watch config

/-- Builds once. -/
def once (config : Path) : IO UInt32 := do
  let tree ← picture config
  let (ws, result) := Workspace.buildOnce { tree } config
  printRecords ws.records [.warning, .error]
  store tree ws.tree
  match result with
  | .ok count => return count.status.toUInt32
  | .error fault =>
    IO.eprintln (String.ofList (fault.message?.getD "the configuration cannot be read".toList))
    return 1

end LivePage.Terminal

/-- The command. -/
def main (arguments : List String) : IO UInt32 := do
  match LivePage.Request.ofArguments (arguments.map String.toList) with
  | .help =>
    IO.print (String.ofList LivePage.helpText)
    return 0
  | .misuse fault =>
    IO.eprint (String.ofList fault.report)
    return 2
  | .once config => LivePage.Terminal.once (.ofText config.raw)
  | .watch config => LivePage.Terminal.watch (.ofText config.raw)
