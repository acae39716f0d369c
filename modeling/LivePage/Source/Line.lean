/-
What a logical line says.

A logical line is one of five things, tried in this order: nothing (a
blank line or a comment), a style line `Name.property = value`, a lone `}`
that closes a block, or a command with its arguments, which opens a block
if the line ends with `{`. A line whose command part has no tokens stands
for no command and may still open a block.

* `styleLine?` — the property and the value of a style line;
* `Line.ofText` — the reading of a line.
-/
import LivePage.Text.Word
import LivePage.Source.Arguments
import LivePage.Source.Logical

namespace LivePage

/-- A logical line, read. -/
inductive Line where
  /-- A blank line or a comment. -/
  | skip
  /-- A style for the next element. -/
  | style (property value : Text)
  /-- The end of the innermost block. -/
  | close
  /-- No command; a silent block begins if `opens` holds. -/
  | bare (opens : Bool)
  /-- A command; its block begins if `opens` holds. -/
  | command (name : Text) (args : Arguments) (opens : Bool)
deriving DecidableEq, Repr

/-- Characters of a style property: word characters and the hyphen. -/
def isPropertyChar (c : Char) : Bool :=
  isWord c || c == '-'

/-- The property and the value of a style line: a word, a point, a property, an equals sign
between optional blanks, and the value, which loses one quote character at each end. -/
def styleLine? (line : Text) : Option (Text × Text) :=
  if (line.takeWhile isWord).isEmpty then none
  else
    match line.dropWhile isWord with
    | '.' :: rest =>
      if (rest.takeWhile isPropertyChar).isEmpty then none
      else
        match (rest.dropWhile isPropertyChar).dropWhile isBlank with
        | '=' :: value =>
          some (rest.takeWhile isPropertyChar, stripQuotes (value.dropWhile isBlank))
        | _ => none
    | _ => none

/-- Whether a line ends with an opening brace. -/
def opensBlock (line : Text) : Bool :=
  line.getLast? == some '{'

/-- The command part of a line: without the opening brace at its end. -/
def commandPart (line : Text) : Text :=
  if opensBlock line then Text.trim line.dropLast else line

/-- The reading of a line by the tokens of its command part. -/
def Line.ofTokens (opens : Bool) : List Token → Line
  | [] => .bare opens
  | name :: rest => .command name.text (.ofTokens rest) opens

/-- The reading of a trimmed line. -/
def Line.ofText (line : Text) : Line :=
  if line.isEmpty || isComment line then .skip
  else
    match styleLine? line with
    | some (property, value) => .style property value
    | none =>
      if line = ['}'] then .close
      else .ofTokens (opensBlock line) (tokenize (commandPart line))

end LivePage
