/-
Compiling a source to the body and the script of a page.

The logical lines of a source run one after the other on one session. Each
line yields markup and notices; at the end every block that is still open
is closed, innermost first.

* `Session.step` — one line;
* `Session.run` — a list of lines;
* `compile` — a whole source, from an empty session.
-/
import LivePage.Source.Line
import LivePage.Page.Command

namespace LivePage

/-- What lines yield. -/
structure Output where
  /-- Markup for the body. -/
  markup : Text := []
  /-- Remarks. -/
  notices : List Notice := []
deriving DecidableEq, Repr

/-- One output after another. -/
def Output.append (o p : Output) : Output :=
  ⟨o.markup ++ p.markup, o.notices ++ p.notices⟩

instance : Append Output where
  append := Output.append

/-- The markup with which a block ends, on a line of its own. -/
def Block.closing : Block → Text
  | .silent => []
  | .element tag => closingTag tag ++ ['\n']

/-- Markup on a line of its own; no markup gives no line. -/
def markupLine (markup : Text) : Text :=
  if markup.isEmpty then [] else markup ++ ['\n']

namespace Session

/-- Opens a block if `opens` holds. -/
def openIf (s : Session) (opens : Bool) (block : Block) : Session :=
  if opens then s.openBlock block else s

/-- Runs a line that was read. -/
def runLine (s : Session) : Line → Session × Output
  | .skip => (s, {})
  | .style property value => (s.addStyle property value, {})
  | .close =>
    match s.closeBlock with
    | (s, some block) => (s, { markup := block.closing })
    | (s, none) => (s, { notices := [.nothingToClose] })
  | .bare opens => (s.openIf opens .silent, {})
  | .command name args opens =>
    let (s, outcome) := s.perform name args opens
    let s := (outcome.script.map s.addScript).getD s
    (s.openIf opens (.ofTag outcome.tag),
      { markup := markupLine outcome.markup, notices := outcome.notices })

/-- Runs one logical line. -/
def step (s : Session) (line : Text) : Session × Output :=
  s.runLine (.ofText line)

/-- Runs logical lines in order. -/
def run (s : Session) : List Text → Session × Output
  | [] => (s, {})
  | line :: rest =>
    let (s, first) := s.step line
    let (s, others) := s.run rest
    (s, first ++ others)

end Session

/-- The end of blocks that are still open. -/
def closeAll (blocks : List Block) : Output where
  markup := blocks.flatMap Block.closing
  notices := blocks.filterMap fun
    | .silent => none
    | .element tag => some (.autoClosed tag)

/-- The body and the script of a page. -/
structure Page where
  /-- Markup of the body. -/
  body : Text
  /-- Script statements, in order. -/
  scripts : List Text
  /-- Remarks on the source. -/
  notices : List Notice
deriving DecidableEq, Repr

/-- Compiles a source. -/
def compile (source : Text) : Page :=
  let (s, output) := Session.run {} (logicalLines source)
  let output := output ++ closeAll s.blocks
  ⟨output.markup, s.scripts, output.notices⟩

end LivePage
