/-
Commands and what they do.

A command is looked up among the elements first, then among the logic and
layout commands. Running it changes the session and yields markup, at most
one script statement, and the tag that a block of the command closes.

* `Command.ofName?` — the command of a name;
* `Session.perform` — runs a command, known or not.
-/
import LivePage.Page.Element
import LivePage.Page.Notice
import LivePage.Page.Session
import LivePage.Script

namespace LivePage

/-- A command. -/
inductive Command where
  /-- Puts an element on the page. -/
  | element (e : Element)
  /-- Marks the page; does nothing. -/
  | page
  /-- Sets the background colour. -/
  | background
  /-- A row of the layout. -/
  | row
  /-- A column of the layout. -/
  | column
  /-- A card, which can be addressed. -/
  | card
  /-- Sets a global variable. -/
  | declare
  /-- Binds the next statement to clicks on the last element. -/
  | onClick
  /-- Shows a value as the text of an element. -/
  | setText
  /-- Shows a message. -/
  | alert
  /-- An empty stretch of the page. -/
  | space
deriving DecidableEq, Repr

namespace Command

/-- The logic and layout commands by name. -/
def logic : List (Text × Command) :=
  [("Page".toList, page), ("Bg".toList, background), ("Row".toList, row),
    ("Column".toList, column), ("Card".toList, card), ("Var".toList, .declare),
    ("OnClick".toList, onClick), ("Set".toList, setText), ("Alert".toList, alert),
    ("Space".toList, space)]

/-- The command of a name. -/
def ofName? (name : Text) : Option Command :=
  match Element.find? name with
  | some e => some (element e)
  | none => Table.get? name logic

end Command

/-- What a command yields. -/
structure Outcome where
  /-- Markup for the body. -/
  markup : Text := []
  /-- A statement for the script. -/
  script : Option Text := none
  /-- The tag that a block of the command closes. -/
  tag : Text := []
  /-- Remarks. -/
  notices : List Notice := []
deriving DecidableEq, Repr

namespace Session

/-- The id of an element: the one given, or a fresh one. -/
def chooseId (s : Session) (args : Arguments) : Session × Text :=
  match args.attr? "id".toList with
  | some id => (s, id)
  | none => s.nextId

/-- Puts an element on the page. It takes the pending styles and can be addressed. -/
def emitElement (s : Session) (e : Element) (args : Arguments) (opens : Bool) :
    Session × Outcome :=
  let (s, id) := s.chooseId args
  let (s, style) := s.takeStyles
  (s.setLast (some id),
    { markup := e.markup args opens id style, tag := e.tagWith args })

/-- Puts a layout container with an id on the page. It takes the pending styles. -/
def emitContainer (s : Session) (cssClass id : Text) (opens : Bool) : Session × Outcome :=
  let (s, style) := s.takeStyles
  (s,
    { markup :=
        openingTag "div".toList
            [("id".toList, id), ("class".toList, cssClass), ("style".toList, style)] ++
          if opens then [] else closingTag "div".toList
      tag := "div".toList })

/-- Binds a statement to the pending event, if there is one; otherwise wraps it as `plain` says. -/
def defer (s : Session) (plain : Text → Text) (statement : Text) : Session × Text :=
  let (s, event) := s.takeEvent
  (s,
    match event with
    | some event => Script.addListener event.target event.kind statement
    | none => plain statement)

/-- The statement of a `Set` with a target. A value with an operator that changes a variable
runs, and the variable named by the target up to its first point is shown; a quoted or missing
value is shown literally; a bare name is read from the global namespace. -/
def setStatement (target : Text) (token : Option Token) : Text :=
  let value := (token.map fun t => stripQuotes t.text).getD []
  if Script.isCompound value then
    Script.qualify value ++ "; ".toList ++
      Script.showText target (Script.globalRef (target.takeWhile (· != '.')))
  else if token.all Token.quoted || value.isEmpty then
    Script.showText target ('"' :: value ++ ['"'])
  else Script.showText target (Script.globalRef value)

/-- Runs a command. -/
def perform (s : Session) (name : Text) (args : Arguments) (opens : Bool) : Session × Outcome :=
  match Command.ofName? name with
  | none =>
    (s,
      { markup := "<!-- Moe: ".toList ++ name ++ " -->".toList
        notices := [.unknownCommand name] })
  | some (.element e) => s.emitElement e args opens
  | some .page => (s, {})
  | some .background =>
    (s,
      { markup :=
          "<style>body \x7b background-color: ".toList ++ args.param 0 ++
            "; \x7d</style>".toList })
  | some .row =>
    let (s, id) := s.nextId
    s.emitContainer "moe-row".toList id opens
  | some .column =>
    let (s, id) := s.nextId
    s.emitContainer "moe-col".toList id opens
  | some .card =>
    let (s, id) := s.chooseId args
    (s.setLast (some id)).emitContainer "moe-card".toList id opens
  | some .declare =>
    if (args.param 0).isEmpty then (s, { notices := [.namelessVariable] })
    else (s, { script := some (Script.assignGlobal (args.param 0) (args.paramD 1 ['0'])) })
  | some .onClick =>
    let (s, bound) := s.bindEvent "click".toList
    (s,
      { markup := "<!-- Event: OnClick -->".toList
        notices := if bound then [] else [.clickWithoutElement] })
  | some .setText =>
    if (args.param 0).isEmpty then (s, { notices := [.targetlessSet] })
    else
      let (s, statement) := s.defer Script.inScope (setStatement (args.param 0) args.raw[1]?)
      (s, { script := some statement })
  | some .alert =>
    let (s, statement) := s.defer id (Script.alertBox (args.param 0))
    (s, { script := some statement })
  | some .space =>
    (s,
      { markup :=
          "<div style=\"height: ".toList ++ args.paramD 0 "20".toList ++
            "px; width: 100%;\"></div>".toList })

end Session

end LivePage
