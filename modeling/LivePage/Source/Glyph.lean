/-
Characters of a line, each with its standing towards the double quotes.

Double quotes pair up from left to right. A character between a quote and
its partner is quoted, and so are the two quotes themselves; a quote that
finds no partner is stray; every other character is bare. Tokens are cut
and blocks are unfolded by looking at glyphs, so both read the quotes of a
line in the same way.

* `glyphs` — the glyphs of a line, in order;
* `Glyph.isBare` — whether a glyph is a given bare character.
-/
import LivePage.Text.Basic

namespace LivePage

/-- How a character stands towards the double quotes of its line. -/
inductive Standing where
  /-- Outside every pair of quotes. -/
  | bare
  /-- A quote of a pair, or between the two. -/
  | quoted
  /-- A quote without a partner. -/
  | stray
deriving DecidableEq, Repr

/-- A character of a line with its standing. -/
structure Glyph where
  /-- The character. -/
  char : Char
  /-- Its standing towards the quotes. -/
  standing : Standing
deriving DecidableEq, Repr

/-- The glyphs of the rest of a line, which begins inside a pair if `inside` holds.
A quote opens a pair only if another quote follows. -/
def glyphsFrom (inside : Bool) : Text → List Glyph
  | [] => []
  | c :: rest =>
    if c = '"' then
      if inside || rest.contains '"' then ⟨c, .quoted⟩ :: glyphsFrom (!inside) rest
      else ⟨c, .stray⟩ :: glyphsFrom inside rest
    else ⟨c, if inside then .quoted else .bare⟩ :: glyphsFrom inside rest

/-- The glyphs of a line. -/
def glyphs (line : Text) : List Glyph :=
  glyphsFrom false line

/-- Whether the glyph is the character `c`, outside quotes. -/
def Glyph.isBare (c : Char) (g : Glyph) : Bool :=
  g.standing == .bare && g.char == c

end LivePage
