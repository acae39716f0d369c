/-
Tokens of a command line.

A line is cut at every blank outside quotes and at a stray quote; the
non-empty pieces are its tokens. Quoted spans stay inside their token with
their quotes, so `placeholder="Your name"` is one token.

* `tokenize` — the tokens of a line;
* `Token.quoted` — whether a token is written as one quoted string;
* `stripQuotes` — takes one quote character off each end.
-/
import LivePage.Source.Glyph

namespace LivePage

/-- A token, as written in the source. -/
structure Token where
  /-- The characters of the token, quotes included. -/
  text : Text
deriving DecidableEq, Repr

/-- Whether the token begins and ends with a double quote, these being two characters. -/
def Token.quoted (t : Token) : Bool :=
  match t.text with
  | [] => false
  | [_] => false
  | c :: rest => c == '"' && rest.getLast? == some '"'

/-- Tokens end at a bare blank and at a stray quote. -/
def Glyph.separates (g : Glyph) : Bool :=
  match g.standing with
  | .bare => isBlank g.char
  | .quoted => false
  | .stray => true

/-- The tokens of a line. -/
def tokenize (line : Text) : List Token :=
  ((cut Glyph.separates (glyphs line)).filter (!·.isEmpty)).map fun piece =>
    ⟨piece.map Glyph.char⟩

/-! ### Quotes at the ends of a value -/

/-- The two quote characters. -/
def isQuote (c : Char) : Bool :=
  c == '"' || c == '\''

/-- Drops a quote at the end, or right before a line break that ends the text. -/
def dropEndQuote : Text → Text
  | [] => []
  | [c] => if isQuote c then [] else [c]
  | [c, d] =>
    if isQuote d then [c]
    else if isQuote c && d == '\n' then [d]
    else [c, d]
  | c :: rest => c :: dropEndQuote rest

/-- Takes one quote character off the start and one off the end. -/
def stripQuotes : Text → Text
  | [] => []
  | c :: rest => dropEndQuote (if isQuote c then rest else c :: rest)

end LivePage
