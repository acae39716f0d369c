/-
Logical lines of a source.

A source is read line by line, each trimmed. Inline blocks are unfolded: a
line is broken after every bare `{` and around every bare `}`, so that
`Row { Text "a" }` becomes the three lines `Row {`, `Text "a"` and `}`.
Comment lines are kept whole, and so are lines without a brace.

* `unfoldBraces` — the pieces of one line, trimmed, without empty ones;
* `logicalLines` — the logical lines of a source.
-/
import LivePage.Source.Glyph

namespace LivePage

/-- Puts a character in front of the first piece. -/
def consHead (c : Char) : List Text → List Text
  | [] => [[c]]
  | piece :: pieces => (c :: piece) :: pieces

/-- The pieces of a line: a bare opening brace ends its piece, a bare closing brace is a piece of
its own, and a stray quote is left out. -/
def bracePieces : List Glyph → List Text
  | [] => [[]]
  | g :: rest =>
    if g.isBare '{' then ['{'] :: bracePieces rest
    else if g.isBare '}' then [] :: ['}'] :: bracePieces rest
    else if g.standing = .stray then bracePieces rest
    else consHead g.char (bracePieces rest)

/-- Breaks a line at its bare braces. -/
def unfoldBraces (line : Text) : List Text :=
  ((bracePieces (glyphs line)).map Text.trim).filter (!·.isEmpty)

/-- Whether a line is a comment. -/
def isComment (line : Text) : Bool :=
  line.head? == some '#'

/-- The logical lines of one line of the source. -/
def unfoldLine (line : Text) : List Text :=
  if isComment line || !(line.contains '{' || line.contains '}') then [line]
  else unfoldBraces line

/-- The logical lines of a source. -/
def logicalLines (source : Text) : List Text :=
  source.lines.flatMap fun line => unfoldLine line.trim

end LivePage
