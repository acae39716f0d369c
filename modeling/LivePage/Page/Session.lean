/-
The state of one compilation.

A session holds the script statements so far, the open blocks, the number
of ids given out, the last element that can be addressed, and two pending
registers: the styles for the next element and the event that the next
statement is bound to. Taking a register empties it.

* `Session.nextId` — a fresh id, numbered from 1;
* `Session.addStyle`, `Session.takeStyles` — the pending styles;
* `Session.bindEvent`, `Session.takeEvent` — the pending event;
* `Session.openBlock`, `Session.closeBlock`, `Session.drainBlocks` — the open blocks.
-/
import LivePage.Text.Basic
import LivePage.Table

namespace LivePage

/-- A block that is open. -/
inductive Block where
  /-- A block that puts nothing on the page when it ends. -/
  | silent
  /-- A block that ends with the closing tag of `tag`. -/
  | element (tag : Text)
deriving DecidableEq, Repr

/-- The block of a tag; without a tag it is silent. -/
def Block.ofTag (tag : Text) : Block :=
  if tag.isEmpty then .silent else .element tag

/-- The tag of a block; a silent block has none. -/
def Block.tag : Block → Text
  | .silent => []
  | .element tag => tag

/-- An event that waits for its statement. -/
structure PendingEvent where
  /-- The kind of event. -/
  kind : Text
  /-- The id of the element that it is bound to. -/
  target : Text
deriving DecidableEq, Repr

/-- The state of one compilation. -/
structure Session where
  /-- Script statements, in order. -/
  scripts : List Text := []
  /-- Open blocks, innermost first. -/
  blocks : List Block := []
  /-- How many ids were given out. -/
  ids : Nat := 0
  /-- The last element that can be addressed. -/
  last : Option Text := none
  /-- Styles for the next element. -/
  styles : Table Text Text := []
  /-- The event for the next statement. -/
  event : Option PendingEvent := none
deriving DecidableEq, Repr

/-- The id with a number. -/
def elementId (n : Nat) : Text :=
  "moe-ref-".toList ++ Text.ofNat n

/-- Styles as the value of a `style` attribute. -/
def styleText (styles : Table Text Text) : Text :=
  styles.flatMap fun entry => entry.1 ++ ':' :: entry.2 ++ [';']

namespace Session

/-- Gives out the next id. -/
def nextId (s : Session) : Session × Text :=
  ({ s with ids := s.ids + 1 }, elementId (s.ids + 1))

/-- Adds a script statement. -/
def addScript (s : Session) (statement : Text) : Session :=
  { s with scripts := s.scripts ++ [statement] }

/-- Sets the element that can be addressed. -/
def setLast (s : Session) (id : Option Text) : Session :=
  { s with last := id }

/-! ### Pending styles -/

/-- Adds a style for the next element. -/
def addStyle (s : Session) (property value : Text) : Session :=
  { s with styles := s.styles.insert property value }

/-- Takes the pending styles. -/
def takeStyles (s : Session) : Session × Text :=
  ({ s with styles := [] }, styleText s.styles)

/-! ### Pending event -/

/-- The element that an event can be bound to. -/
def target? (s : Session) : Option Text :=
  match s.last with
  | some (c :: id) => some (c :: id)
  | _ => none

/-- Binds an event to the last element, and says whether there was one. -/
def bindEvent (s : Session) (kind : Text) : Session × Bool :=
  match s.target? with
  | some id => ({ s with event := some ⟨kind, id⟩ }, true)
  | none => (s, false)

/-- Takes the pending event. -/
def takeEvent (s : Session) : Session × Option PendingEvent :=
  ({ s with event := none }, s.event)

/-! ### Open blocks -/

/-- Opens a block inside the others. -/
def openBlock (s : Session) (block : Block) : Session :=
  { s with blocks := block :: s.blocks }

/-- Closes the innermost block, if one is open. -/
def closeBlock (s : Session) : Session × Option Block :=
  match s.blocks with
  | [] => (s, none)
  | block :: rest => ({ s with blocks := rest }, some block)

/-- Closes every block, innermost first. -/
def drainBlocks (s : Session) : Session × List Block :=
  ({ s with blocks := [] }, s.blocks)

end Session

end LivePage
