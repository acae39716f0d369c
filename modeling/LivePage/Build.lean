/-
Builds: compiling sources to documents.

A build goes through a table of sources with their destinations. Each
source is read and compiled as the files stand at that point, and only
then is its destination opened. A pair that fails is recorded and leaves
the files as they were; the others go on. Only a path that no file can
have and a document that has no bytes end a build. Such a document leaves
its destination empty.

* `buildPair` — one pair;
* `build` — all pairs, in order.
-/
import LivePage.Files.Tree
import LivePage.Log
import LivePage.Page.Document

namespace LivePage

/-- Sources with their destinations. -/
abbrev Pairs := Table Path Path

/-- A table of pairs; a source that is given twice keeps its first place and its last
destination. -/
def Pairs.ofTexts (pairs : List (Text × Text)) : Pairs :=
  Table.ofList (pairs.map fun pair => (Path.ofText (Text.raw pair.1), Path.ofText (Text.raw pair.2)))

/-- How a build stands. -/
structure BuildState where
  /-- The files. -/
  tree : FileTree
  /-- How many pairs were written. -/
  written : Nat := 0
  /-- Records, in order. -/
  records : List Record := []
deriving DecidableEq, Repr

/-- Whether a fault leaves the build to go on with the next pair. -/
def FileFault.isSurvived : FileFault → Bool
  | .nullByte | .unencodable _ => false
  | _ => true

/-- A pair as it is shown in records. -/
def pairText (pair : Path × Path) : RawText :=
  pair.1.text ++ raw " -> " ++ pair.2.text

/-- The notices of a page as records. -/
def noticeRecords (page : Page) : List Record :=
  page.notices.map fun notice => ⟨.debug, notice.message.raw⟩

/-- Builds one pair: the notices of the source, if it was compiled, the files afterwards, and why
the document was not written. -/
def buildPair (frame : Frame) (tree : FileTree) (pair : Path × Path) :
    List Record × FileTree × Option FileFault :=
  match tree.readText pair.1 with
  | .error fault => ([], tree, some fault)
  | .ok source =>
    let page := compile source
    (noticeRecords page, tree.writeText pair.2 (frame.document page.body page.scripts))

/-- Builds the pairs in order. A fault that is not survived ends the build. -/
def buildFrom (frame : Frame) (state : BuildState) :
    List (Path × Path) → BuildState × Option FileFault
  | [] => (state, none)
  | pair :: rest =>
    match buildPair frame state.tree pair with
    | (notices, tree, none) =>
      buildFrom frame
        { tree
          written := state.written + 1
          records :=
            state.records ++ notices ++ [⟨.info, raw "Compiled " ++ pairText pair⟩] }
        rest
    | (notices, tree, some fault) =>
      if fault.isSurvived then
        buildFrom frame
          { state with
            tree
            records :=
              state.records ++ notices ++
                [⟨.error, raw "Could not rebuild " ++ pairText pair ++ raw ": " ++
                  fault.message.raw⟩] }
          rest
      else ({ state with tree, records := state.records ++ notices }, some fault)

/-- Builds all pairs from the files of a tree. -/
def build (frame : Frame) (tree : FileTree) (pairs : Pairs) : BuildState × Option FileFault :=
  buildFrom frame { tree } pairs

end LivePage
