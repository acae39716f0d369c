/-
What a line does to the session.

Apart from the stack of open blocks, what a line does is the deed of its
command. The statements here say once how each register of the session
changes, so that no later proof opens the commands again.

* `Session.after` — the session that a known command leaves behind, and
  `Session.perform_fst`: performing the command leaves exactly that session;
* `Session.enact` — what a line does by itself, and `Session.runLine_fst`:
  running the line does this and pushes or pops one block at most;
* `Session.runLine_last`, `Session.runLine_styles`, `Session.runLine_event`,
  `Session.runLine_scripts` — the registers after a line.
-/
import LivePage.Page.Compile
import LivePage.Proofs.Source.Reading

namespace LivePage

/-- The known command that a line runs, with its arguments. -/
def Line.command? : Line → Option (Command × Arguments)
  | .command name args _ => (Command.ofName? name).map fun c => (c, args)
  | _ => none

/-! ### The effect of a command -/

namespace Command

/-- The commands that put an element with an id on the page. -/
def places : Command → Bool
  | element _ | row | column | card => true
  | page | background | .declare | onClick | setText | alert | space => false

/-- The commands whose element can be addressed. -/
def addresses : Command → Bool
  | element _ | card => true
  | page | background | row | column | .declare | onClick | setText | alert | space => false

end Command

namespace Session

/-- How many ids were given out after a command. -/
def idsAfter (s : Session) (args : Arguments) : Command → Nat
  | .element _ | .card => (s.chooseId args).1.ids
  | .row | .column => s.ids + 1
  | .page | .background | .declare | .onClick | .setText | .alert | .space => s.ids

/-- The event that waits after a command. -/
def eventAfter (s : Session) (args : Arguments) : Command → Option PendingEvent
  | .onClick => (s.target?.map (PendingEvent.mk "click".toList)).or s.event
  | .setText => if (args.param 0).isEmpty then s.event else none
  | .alert => none
  | .element _ | .page | .background | .row | .column | .card | .declare | .space => s.event

/-- The session that a known command leaves behind, scripts and blocks apart. -/
def after (s : Session) (c : Command) (args : Arguments) : Session :=
  { s with
    ids := s.idsAfter args c
    last := if c.addresses then some (s.chooseId args).2 else s.last
    styles := if c.places then [] else s.styles
    event := s.eventAfter args c }

/-- Choosing an id touches nothing but the number of ids. -/
theorem chooseId_fst (s : Session) (args : Arguments) :
    (s.chooseId args).1 = { s with ids := (s.chooseId args).1.ids } := by
  unfold chooseId
  split <;> rfl

theorem emitElement_fst (s : Session) (e : Element) (args : Arguments) (opens : Bool) :
    (s.emitElement e args opens).1 = s.after (.element e) args := by
  show { (s.chooseId args).1 with styles := [], last := some (s.chooseId args).2 } = _
  rw [chooseId_fst]
  rfl

theorem bindEvent_fst (s : Session) (kind : Text) :
    (s.bindEvent kind).1 =
      { s with event := (s.target?.map (PendingEvent.mk kind)).or s.event } := by
  unfold bindEvent
  cases s.target? <;> rfl

/-- Performing a command leaves the session that its kind says; an unknown one changes nothing. -/
theorem perform_fst (s : Session) (name : Text) (args : Arguments) (opens : Bool) :
    (s.perform name args opens).1 =
      match Command.ofName? name with
      | some c => s.after c args
      | none => s := by
  unfold perform
  cases Command.ofName? name with
  | none => rfl
  | some c =>
    cases c with
    | element e => exact s.emitElement_fst e args opens
    | page => rfl
    | background => rfl
    | row => rfl
    | column => rfl
    | card =>
      -- the id is chosen first, and touches neither register
      show { (s.chooseId args).1 with last := some (s.chooseId args).2, styles := [] } = _
      rw [chooseId_fst]
      rfl
    | declare =>
      dsimp only
      split <;> rfl
    | onClick => exact s.bindEvent_fst _
    | setText =>
      dsimp only [after, eventAfter]
      split <;> rfl
    | alert => rfl
    | space => rfl

end Session

/-! ### Statements -/

/-- The assignment of a global variable, spelled out. -/
def assignmentText (name value : Text) : Text :=
  "window.".toList ++ name ++ " = ".toList ++ value ++ ";".toList

/-- The statement that shows a message, spelled out. -/
def alertText (message : Text) : Text :=
  "alert(\"".toList ++ message ++ "\");".toList

/-- A statement between the braces of a block of its own. -/
def scopeText (statement : Text) : Text :=
  "\x7b ".toList ++ statement ++ " \x7d".toList

/-- A statement between the braces of a function that runs at every event of a kind on the element
with an id. -/
def listenerText (id kind statement : Text) : Text :=
  "document.getElementById(\"".toList ++ id ++ "\").addEventListener(\"".toList ++ kind ++
    "\", () => \x7b ".toList ++ statement ++ " \x7d);".toList

/-- A statement that waits for an event, if there is one. -/
structure Statement where
  /-- The statement itself. -/
  text : Text
  /-- The statement as it is written when no event waits. -/
  plain : Text
deriving DecidableEq, Repr

/-- The statement of an `Alert`, and of a `Set` with a target. -/
def Command.statement? (args : Arguments) : Command → Option Statement
  | alert => some ⟨alertText (args.param 0), alertText (args.param 0)⟩
  | setText =>
    if (args.param 0).isEmpty then none
    else
      some ⟨Session.setStatement (args.param 0) args.raw[1]?,
        scopeText (Session.setStatement (args.param 0) args.raw[1]?)⟩
  | element _ | page | background | row | column | card | .declare | onClick | space => none

/-- The assignment of a `Var` with a name. -/
def Command.assignment? (args : Arguments) : Command → Option Text
  | .declare =>
    if (args.param 0).isEmpty then none
    else some (assignmentText (args.param 0) (args.paramD 1 ['0']))
  | element _ | page | background | row | column | card | onClick | setText | alert | space => none

namespace Session

/-- A statement as the script gets it: bound to the event that waits, or plain. -/
def wrap (s : Session) (st : Statement) : Text :=
  match s.event with
  | some event => listenerText event.target event.kind st.text
  | none => st.plain

/-- What a command adds to the script. -/
def entry? (s : Session) (args : Arguments) (c : Command) : Option Text :=
  ((c.statement? args).map s.wrap).or (c.assignment? args)

theorem perform_script (s : Session) (name : Text) (args : Arguments) (opens : Bool) :
    (s.perform name args opens).2.script = (Command.ofName? name).bind (s.entry? args) := by
  unfold perform
  cases Command.ofName? name with
  | none => rfl
  | some c =>
    cases c with
    | element e => rfl
    | page => rfl
    | background => rfl
    | row => rfl
    | column => rfl
    | card => rfl
    | declare =>
      dsimp only [Option.bind_some, entry?, Command.statement?, Command.assignment?]
      split <;> rfl
    | onClick => rfl
    | setText =>
      dsimp only [Option.bind_some, entry?, Command.statement?, Command.assignment?]
      split <;> rfl
    | alert => rfl
    | space => rfl

/-! ### The effect of a line -/

/-- What a line does by itself: the session it leaves, its own markup, and the block that it
opens if it opens one. The open blocks play no part. -/
def enact (s : Session) : Line → Session × Text × Block
  | .skip | .close | .bare _ => (s, [], .silent)
  | .style property value => (s.addStyle property value, [], .silent)
  | .command name args opens =>
    let (s, outcome) := s.perform name args opens
    ((outcome.script.map s.addScript).getD s, markupLine outcome.markup, .ofTag outcome.tag)

end Session

namespace Line

/-- Whether the line puts an element with an id on the page. -/
def places (line : Line) : Bool :=
  line.command?.any (·.1.places)

/-- Whether the line binds the next statement to clicks. -/
def clicks (line : Line) : Bool :=
  line.command?.any (·.1 = .onClick)

/-- The statement of the line. -/
def statement? (line : Line) : Option Statement :=
  line.command?.bind fun run => run.1.statement? run.2

/-- The assignment of the line. -/
def assignment? (line : Line) : Option Text :=
  line.command?.bind fun run => run.1.assignment? run.2

end Line

namespace Session

/-- The open blocks after a line. -/
def blocksAfter (s : Session) : Line → List Block
  | .close => s.blocks.tail
  | line => if line.opens then (s.enact line).2.2 :: s.blocks else s.blocks

theorem blocksAfter_of_ne_close (s : Session) {line : Line} (h : line ≠ .close) :
    s.blocksAfter line = if line.opens then (s.enact line).2.2 :: s.blocks else s.blocks := by
  cases line with
  | close => exact absurd rfl h
  | _ => rfl

/-- The id of the element that the line makes addressable. -/
def addressed? (s : Session) (line : Line) : Option Text :=
  line.command?.bind fun run => if run.1.addresses then some (s.chooseId run.2).2 else none

/-- The styles that wait after a line. -/
def stylesAfter (s : Session) : Line → Table Text Text
  | .style property value => s.styles.insert property value
  | line => if line.places then [] else s.styles

theorem enact_command_fst (s : Session) (name : Text) (args : Arguments) (opens : Bool) :
    (s.enact (.command name args opens)).1 =
      { (s.perform name args opens).1 with
        scripts := (s.perform name args opens).1.scripts ++
          (s.perform name args opens).2.script.toList } := by
  show ((s.perform name args opens).2.script.map
    (s.perform name args opens).1.addScript).getD (s.perform name args opens).1 = _
  cases (s.perform name args opens).2.script with
  | none => simp
  | some statement => rfl

theorem perform_blocks (s : Session) (name : Text) (args : Arguments) (opens : Bool) :
    (s.perform name args opens).1.blocks = s.blocks := by
  rw [perform_fst]
  cases Command.ofName? name <;> rfl

theorem openIf_eq (s : Session) (opens : Bool) (block : Block) :
    s.openIf opens block =
      { s with blocks := if opens then block :: s.blocks else s.blocks } := by
  cases opens <;> rfl

/-- No line touches the open blocks by its own deed. -/
theorem enact_blocks (s : Session) (line : Line) : (s.enact line).1.blocks = s.blocks := by
  cases line with
  | command name args opens =>
    rw [enact_command_fst]
    exact s.perform_blocks name args opens
  | _ => rfl

/-- Running a line does its deed, and pushes or pops one block at most. -/
theorem runLine_fst (s : Session) (line : Line) :
    (s.runLine line).1 = { (s.enact line).1 with blocks := s.blocksAfter line } := by
  cases line with
  | skip => rfl
  | style property value => rfl
  | close =>
    rcases s with ⟨scripts, blocks, ids, last, styles, event⟩
    cases blocks <;> rfl
  | bare opens => cases opens <;> rfl
  | command name args opens =>
    show (s.enact (.command name args opens)).1.openIf opens _ = _
    rw [openIf_eq, enact_blocks]
    rfl

/-- The open blocks after a line, by its text. -/
theorem step_blocks (s : Session) (line : Text) :
    (s.step line).1.blocks =
      if line = ['}'] then s.blocks.tail
      else if startsBlock line then (s.enact (.ofText line)).2.2 :: s.blocks
      else s.blocks := by
  rw [step, runLine_fst]
  by_cases hclose : line = ['}']
  · rw [if_pos hclose, Line.ofText_eq_close_iff.mpr hclose]
    rfl
  · rw [if_neg hclose, ← Line.opens_ofText]
    exact s.blocksAfter_of_ne_close fun h => hclose (Line.ofText_eq_close_iff.mp h)

/-- A line that closes no block puts its own markup on the page. -/
theorem runLine_markup {line : Line} (h : line ≠ .close) (s : Session) :
    (s.runLine line).2.markup = (s.enact line).2.1 := by
  cases line with
  | close => exact absurd rfl h
  | _ => rfl

/-- A closing brace puts the end of the innermost block on the page, if one is open. -/
theorem runLine_close_markup (s : Session) :
    (s.runLine .close).2.markup = (s.blocks.head?.map Block.closing).getD [] := by
  rcases s with ⟨scripts, blocks, ids, last, styles, event⟩
  cases blocks <;> rfl

/-! ### The registers after a line -/

theorem runLine_last (s : Session) (line : Line) :
    (s.runLine line).1.last = (s.addressed? line).or s.last := by
  rw [runLine_fst]
  cases line with
  | command name args opens =>
    rw [enact_command_fst, perform_fst]
    dsimp only [addressed?, Line.command?]
    cases Command.ofName? name with
    | none => rfl
    | some c =>
      show (s.after c args).last = _
      cases c <;> rfl
  | _ => rfl

theorem runLine_styles (s : Session) (line : Line) :
    (s.runLine line).1.styles = s.stylesAfter line := by
  rw [runLine_fst]
  cases line with
  | command name args opens =>
    rw [enact_command_fst, perform_fst]
    cases hname : Command.ofName? name with
    | none => simp [stylesAfter, Line.places, Line.command?, hname]
    | some c => simp [stylesAfter, Line.places, Line.command?, hname, after]
  | _ => rfl

theorem runLine_event (s : Session) (line : Line) :
    (s.runLine line).1.event =
      if line.clicks then (s.target?.map (PendingEvent.mk "click".toList)).or s.event
      else if line.statement?.isSome then none
      else s.event := by
  rw [runLine_fst]
  cases line with
  | command name args opens =>
    rw [enact_command_fst, perform_fst]
    cases hname : Command.ofName? name with
    | none => simp [Line.clicks, Line.statement?, Line.command?, hname]
    | some c =>
      simp only [Line.clicks, Line.statement?, Line.command?, hname, Option.map_some,
        Option.any_some, Option.bind_some]
      cases c with
      | setText =>
        simp only [after, eventAfter, Command.statement?]
        split <;> rfl
      | _ => rfl
  | _ => rfl

theorem runLine_scripts (s : Session) (line : Line) :
    (s.runLine line).1.scripts =
      s.scripts ++ ((line.statement?.map s.wrap).or line.assignment?).toList := by
  rw [runLine_fst]
  cases line with
  | command name args opens =>
    rw [enact_command_fst, perform_script, perform_fst]
    dsimp only [Line.statement?, Line.assignment?, Line.command?]
    cases Command.ofName? name <;> rfl
  | _ => exact (List.append_nil _).symm

end Session

end LivePage
