/-
Changes of files from outside.

While the program runs, others write files, remove them and make
directories. They take a path as it is written. Writing a file makes the
directories on the way to it first, one after the other, and those stay
when a later step fails.

* `FileTree.entryAt?` — what a written path leads to;
* `FileTree.makeDirectories` — directories, with those on the way;
* `Change`, `FileTree.apply` — a change, and the files after it.
-/
import LivePage.Files.Tree

namespace LivePage

/-- A change of the files from outside. -/
inductive Change where
  /-- A file is written, with the directories on the way. -/
  | write (path : RawText) (content : Bytes)
  /-- A file is removed. -/
  | remove (path : RawText)
  /-- A directory is made, with those on the way. -/
  | makeDirectory (path : RawText)
deriving DecidableEq, Repr

namespace FileTree

/-- The place that a path leads to as it is written. -/
def locateWritten (tree : FileTree) (t : RawText) : Except FileFault Location :=
  if t.isEmpty then .error (.missing t) else tree.follow t (.ofText t) (openedParts t)

/-- What a written path leads to, if to anything. -/
def entryAt? (tree : FileTree) (t : RawText) : Option Entry :=
  match tree.locateWritten t with
  | .ok place => tree.find? place
  | .error _ => none

/-- The names in the directory that a written path leads to. -/
def namesAt (tree : FileTree) (t : RawText) : List RawText :=
  match tree.locateWritten t with
  | .ok place => tree.children place
  | .error _ => []

/-- Makes one directory. -/
def makeDirectory (tree : FileTree) (t : RawText) : Except FileFault FileTree := do
  if t.isEmpty then .error (.missing t)
  let place ← tree.follow t (.ofText t) (writtenParts t)
  match tree.find? place with
  | some _ => .error (.occupied t)
  | none => .ok (tree.set place .directory)

/-- Makes one directory, unless there is one. -/
def ensureDirectory (tree : FileTree) (t : RawText) : FileTree × Option FileFault :=
  match tree.makeDirectory t with
  | .ok tree => (tree, none)
  | .error fault => (tree, if tree.entryAt? t = some .directory then none else some fault)

/-- Makes directories on the way to another one. A file in the place of one of them is left for
the next step to meet. -/
def makeWays (tree : FileTree) : List RawText → FileTree × Option FileFault
  | [] => (tree, none)
  | t :: rest =>
    match tree.ensureDirectory t with
    | (tree, none) | (tree, some (.occupied _)) => tree.makeWays rest
    | (tree, some fault) => (tree, some fault)

/-- The written paths on the way to a directory that lead to nothing, up to the first that leads
to something. -/
def missingWays (tree : FileTree) (t : RawText) : List RawText :=
  ((ancestors t).reverse.takeWhile fun way => (tree.entryAt? way).isNone).reverse

/-- Makes a directory, with those on the way to it. One that is there already is kept. After a
directory that was missing, a component that stays in it asks for nothing more. -/
def makeDirectories (tree : FileTree) (t : RawText) : FileTree × Option FileFault :=
  match tree.missingWays t with
  | [] => tree.ensureDirectory t
  | first :: rest =>
    match tree.makeWays (first :: rest.filter (!staysInPlace ·)) with
    | (tree, some fault) => (tree, some fault)
    | (tree, none) => if staysInPlace t then (tree, none) else tree.ensureDirectory t

/-- Makes the directories on the way to a file. -/
def makeParents (tree : FileTree) (t : RawText) : FileTree × Option FileFault :=
  if (parentText t).isEmpty then (tree, none) else tree.makeDirectories (parentText t)

/-- Writes a file, with the directories on the way to it. -/
def putFile (tree : FileTree) (t : RawText) (content : Bytes) : FileTree × Option FileFault :=
  match tree.makeParents t with
  | (tree, some fault) => (tree, some fault)
  | (tree, none) =>
    match tree.locateWritten t with
    | .error fault => (tree, some fault)
    | .ok place =>
      match tree.writeAt t place content with
      | .ok tree => (tree, none)
      | .error fault => (tree, some fault)

/-- Removes a file. -/
def remove (tree : FileTree) (t : RawText) : Except FileFault FileTree := do
  let place ← tree.locateWritten t
  match tree.find? place with
  | none => .error (.missing t)
  | some .directory => .error (.isDirectory t)
  | some (.file _) => .ok { tree with entries := tree.entries.filter (·.1 != place) }

/-- The files after a change, as far as it went, and why it went no further. -/
def apply (tree : FileTree) : Change → FileTree × Option FileFault
  | .write t content => tree.putFile t content
  | .remove t =>
    match tree.remove t with
    | .ok tree => (tree, none)
    | .error fault => (tree, some fault)
  | .makeDirectory t => tree.makeDirectories t

/-- The files after changes. The first one that fails ends them. -/
def applyAll (tree : FileTree) : List Change → FileTree × Option FileFault
  | [] => (tree, none)
  | change :: rest =>
    match tree.apply change with
    | (tree, none) => tree.applyAll rest
    | (tree, some fault) => (tree, some fault)

end FileTree

end LivePage
