/-
A place in a YAML text.

A cursor holds the rest of the text with the position, the line and the
column of its first character. Lines end at the line breaks of YAML, which
are more than `'\n'`, and a byte order mark takes no column.

* `Cursor.peek` — a character ahead;
* `Cursor.skip` — moves on;
* `Cursor.lineBreak?` — reads one line break;
* `Cursor.atMarker` — whether `---` or `...` stands here, before a blank.
-/
import LivePage.Text.Basic

namespace LivePage.Yaml

/-- The line breaks of YAML. -/
def isBreak (c : Char) : Bool :=
  c == '\n' || c == '\r' || c == '\u0085' || c == '\u2028' || c == '\u2029'

/-- Spaces, tabs and line breaks. -/
def isSpacing (c : Char) : Bool :=
  c == ' ' || c == '\t' || isBreak c

/-- Whether what comes next is spacing or the end of the text. -/
def endsWord (next : Option Char) : Bool :=
  next.all isSpacing

/-- The characters that a YAML text may hold. -/
def isAllowed (c : Char) : Bool :=
  c == '\t' || c == '\n' || c == '\r' || c == '\u0085' || inBands
    [(0x20, 0x7E), (0xA0, 0xD7FF), (0xE000, 0xFFFD), (0x10000, 0x10FFFF)] c.toNat

/-- A place in a text. -/
structure Cursor where
  /-- The text from here on. -/
  rest : Text
  /-- The number of characters from here on. -/
  left : Nat
  /-- The number of characters before. -/
  index : Nat := 0
  /-- The number of lines before. -/
  line : Nat := 0
  /-- The number of columns before, on this line. -/
  column : Nat := 0
deriving DecidableEq, Repr

namespace Cursor

/-- The start of a text. -/
def start (t : Text) : Cursor :=
  { rest := t, left := t.length }

/-- The character `n` places ahead. -/
def peek (c : Cursor) (n : Nat) : Option Char :=
  c.rest[n]?

/-- Moves past one character. -/
def next (c : Cursor) : Cursor :=
  match c.rest with
  | [] => c
  | ch :: rest =>
    -- a carriage return before a line feed does not end the line yet
    if isBreak ch && !(ch == '\r' && rest.head? == some '\n') then
      ⟨rest, c.left - 1, c.index + 1, c.line + 1, 0⟩
    else
      ⟨rest, c.left - 1, c.index + 1, c.line, if ch == '\uFEFF' then c.column else c.column + 1⟩

/-- Moves past a number of characters. -/
def skip (c : Cursor) : Nat → Cursor
  | 0 => c
  | n + 1 => c.next.skip n

/-- Moves past the characters that satisfy a test. -/
def skipWhile (c : Cursor) (p : Char → Bool) : Cursor :=
  c.skip (c.rest.takeWhile p).length

/-- Reads a line break. The breaks of ASCII and the next-line character are all read as
`'\n'`. -/
def lineBreak? (c : Cursor) : Option (Char × Cursor) :=
  match c.rest with
  | '\r' :: '\n' :: _ => some ('\n', c.skip 2)
  | ch :: _ =>
    if ch == '\u2028' || ch == '\u2029' then some (ch, c.next)
    else if isBreak ch then some ('\n', c.next)
    else none
  | [] => none

/-- Whether a text of three characters stands here, before spacing or the end. -/
def startsWith (c : Cursor) (marker : Text) : Bool :=
  c.rest.take 3 == marker && endsWord (c.peek 3)

/-- Whether a marker of a document's start or end stands here. -/
def atMarker (c : Cursor) : Bool :=
  c.startsWith ['-', '-', '-'] || c.startsWith ['.', '.', '.']

end Cursor

end LivePage.Yaml
