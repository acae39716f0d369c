/-
Trees of files, and what goes wrong with them.

A tree lists its entries by place; the root is a directory that needs no
entry. Opening a path walks it component by component: each component but
the last must lead to a directory, also where `..` follows. Names and paths
have a greatest length, and a path with a NUL character or with surrogates
that have no bytes is never looked for.

* `FileTree.find?`, `FileTree.children` — what is at a place;
* `FileTree.locate` — the place that an opened path leads to;
* `FileTree.look?` — what an opened path leads to, if to anything;
* `FileTree.read`, `FileTree.readText` — the content of a file;
* `FileTree.write`, `FileTree.writeText` — replaces or creates a file;
* `FileTree.resolve` — the place that a path names, existing or not;
* `FileFault` — why a file cannot be read or written.
-/
import LivePage.Files.Path
import LivePage.Table
import LivePage.Text.Utf8

namespace LivePage

/-- What is at a place. -/
inductive Entry where
  /-- A file with its content. -/
  | file (content : Bytes)
  /-- A directory. -/
  | directory
deriving DecidableEq, Repr

/-- Why a file cannot be read or written. A path is kept as it was written. -/
inductive FileFault where
  /-- There is nothing at the path. -/
  | missing (path : RawText)
  /-- There is something at the path already. -/
  | occupied (path : RawText)
  /-- The path leads to a directory. -/
  | isDirectory (path : RawText)
  /-- The path leads through something that is no directory. -/
  | notDirectory (path : RawText)
  /-- The path, or a component of it, is too long. -/
  | nameTooLong (path : RawText)
  /-- A NUL character stands in the path. -/
  | nullByte
  /-- Surrogates of the path or of the content have no bytes. -/
  | unencodable (fault : EncodeFault)
  /-- The content is not UTF-8. -/
  | undecodable (fault : DecodeFault)
deriving DecidableEq, Repr

/-- The wording of a fault. -/
def FileFault.message : FileFault → Text
  | .missing path => "[Errno 2] No such file or directory: ".toList ++ quote path
  | .occupied path => "[Errno 17] File exists: ".toList ++ quote path
  | .isDirectory path => "[Errno 21] Is a directory: ".toList ++ quote path
  | .notDirectory path => "[Errno 20] Not a directory: ".toList ++ quote path
  | .nameTooLong path => "[Errno 36] File name too long: ".toList ++ quote path
  | .nullByte => "embedded null byte".toList
  | .unencodable fault => fault.message
  | .undecodable fault => fault.message

/-- Why no file can have a path, if none can. -/
def pathFault? (t : RawText) : Option FileFault :=
  match nameFault? t with
  | some fault => some (.unencodable fault)
  | none => if t.contains '\x00' then some .nullByte else none

/-- A tree of files, with the working directory from which relative paths start. -/
structure FileTree where
  /-- The working directory. -/
  working : Location
  /-- The entries below the root. -/
  entries : Table Location Entry
deriving DecidableEq, Repr

namespace FileTree

/-- What is at a place. -/
def find? (tree : FileTree) (place : Location) : Option Entry :=
  if place.isEmpty then some .directory else tree.entries.get? place

/-- Whether there is a directory at a place. -/
def isDirectory (tree : FileTree) (place : Location) : Bool :=
  tree.find? place == some .directory

/-- The names in a directory. -/
def children (tree : FileTree) (place : Location) : List RawText :=
  tree.entries.filterMap fun entry =>
    match entry.1.getLast? with
    | some name => if entry.1.dropLast = place then some name else none
    | none => none

/-- The longest name that a component can have, in bytes. -/
def maxNameLength : Nat := 255

/-- The longest path that can be opened, in bytes. -/
def maxPathLength : Nat := 4095

/-- Walks components from a place; `shown` is the whole path as it was written. -/
def walk (tree : FileTree) (shown : RawText) :
    Location → List RawText → Except FileFault Location
  | here, [] => .ok here
  | here, part :: rest =>
    match tree.find? here with
    | none => .error (.missing shown)
    | some (.file _) => .error (.notDirectory shown)
    | some .directory =>
      if maxNameLength < (encodeName part).length then .error (.nameTooLong shown)
      else tree.walk shown (here.step part) rest

/-- The place that components lead to from where a path begins; `shown` is the path as it was
written. -/
def follow (tree : FileTree) (shown : RawText) (anchor : Anchor) (parts : List RawText) :
    Except FileFault Location :=
  match pathFault? shown with
  | some fault => .error fault
  | none =>
    if maxPathLength < (encodeName shown).length then .error (.nameTooLong shown)
    else tree.walk shown (anchor.start tree.working) parts

/-- The place that an opened path leads to. There may be nothing there. -/
def locate (tree : FileTree) (path : Path) : Except FileFault Location :=
  tree.follow path.text path.anchor path.parts

/-- What an opened path leads to, if to anything. Only a path that is too long is a fault. -/
def look? (tree : FileTree) (path : Path) : Except FileFault (Option Entry) :=
  match tree.locate path with
  | .ok place => .ok (tree.find? place)
  | .error (.nameTooLong shown) => .error (.nameTooLong shown)
  | .error _ => .ok none

/-- The bytes of a file. -/
def read (tree : FileTree) (path : Path) : Except FileFault Bytes := do
  let place ← tree.locate path
  match tree.find? place with
  | none => .error (.missing path.text)
  | some .directory => .error (.isDirectory path.text)
  | some (.file content) => .ok content

/-- The text of a file, with its line ends unified. -/
def readText (tree : FileTree) (path : Path) : Except FileFault Text := do
  match decode (← tree.read path) with
  | .ok text => .ok (unifyLineEnds text)
  | .error fault => .error (.undecodable fault)

/-- Sets the entry at a place. -/
def set (tree : FileTree) (place : Location) (entry : Entry) : FileTree :=
  { tree with entries := tree.entries.insert place entry }

/-- Replaces the whole content of the file at a place, which is created if it is not there;
`shown` is the path to it as it was written. -/
def writeAt (tree : FileTree) (shown : RawText) (place : Location) (content : Bytes) :
    Except FileFault FileTree :=
  match tree.find? place with
  | some .directory => .error (.isDirectory shown)
  | _ => .ok (tree.set place (.file content))

/-- Replaces the whole content of a file, which is created in its directory if it is not there. -/
def write (tree : FileTree) (path : Path) (content : Bytes) : Except FileFault FileTree := do
  tree.writeAt path.text (← tree.locate path) content

/-- Replaces the whole content of a file by a text. The file is emptied before the text is looked
at, and stays empty if surrogates of the text have no bytes. -/
def writeText (tree : FileTree) (path : Path) (t : RawText) : FileTree × Option FileFault :=
  let fault? := encodeFault? t
  match tree.write path (if fault?.isSome then [] else encode t.chars) with
  | .error fault => (tree, some fault)
  | .ok tree => (tree, fault?.map .unencodable)

/-- Why a path does not name a place, after `done` of it with each `..` folded: the path up to
its first component that no file can have is looked for. -/
def unnamable? (done : Path) : List RawText → Option FileFault
  | [] => none
  | part :: rest =>
    if (pathFault? part).isSome then pathFault? (done.extend part).text
    else unnamable? (done.extend part) rest

/-- The place that a path names. There may be nothing there. -/
def resolve (tree : FileTree) (path : Path) : Except FileFault Location :=
  let start : Path := ⟨if path.anchor = .relative then .relative else .root, []⟩
  match unnamable? start path.parts with
  | some fault => .error fault
  | none => .ok (path.resolve tree.working)

/-- The places that paths name. -/
def resolveAll (tree : FileTree) (paths : List Path) : Except FileFault (List Location) :=
  paths.mapM tree.resolve

end FileTree

end LivePage
