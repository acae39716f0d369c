/-
Tokens of a YAML text.

Outside brackets, the column of a line tells where lists and mappings
begin and end; tokens make those places explicit. A key is known as such
only when the colon behind it is seen, so the place where a key may have
begun is kept in mind, one for each depth of brackets, and the tokens that
open the key are put there afterwards. Such a key is on one line and not
longer than 1024 characters.

Where the text cannot be read further, the tokens end with the fault. It
takes the place of the first token that is not settled then: one that a
key may still begin with is not.

* `Token` — the tokens;
* `Scan` — the state of the reading;
* `Scan.settled` — the tokens that will not change any more;
* `tokens` — the tokens of a text.
-/
import LivePage.Yaml.Scalar

namespace LivePage.Yaml

/-- A token. -/
inductive Token where
  /-- The marker `---`. -/
  | documentStart
  /-- The marker `...`. -/
  | documentEnd
  /-- A list by indentation begins. -/
  | blockList
  /-- A mapping by indentation begins. -/
  | blockMap
  /-- A list or mapping by indentation ends. -/
  | blockEnd
  /-- An opening square bracket. -/
  | listStart
  /-- A closing square bracket. -/
  | listEnd
  /-- An opening brace. -/
  | mapStart
  /-- A closing brace. -/
  | mapEnd
  /-- A comma between brackets. -/
  | comma
  /-- A dash before an item. -/
  | dash
  /-- A key begins. -/
  | key
  /-- A value begins. -/
  | value
  /-- A scalar. -/
  | scalar (s : Scalar)
  /-- The text cannot be read further. -/
  | broken (fault : Fault)
deriving DecidableEq, Repr

/-- A place where a key may have begun. -/
structure PossibleKey where
  /-- The number of tokens before it. -/
  position : Nat
  /-- Whether there must be a key: it begins a line of a mapping. -/
  required : Bool
  /-- Where it begins. -/
  start : Cursor
deriving DecidableEq, Repr

/-- The state of the reading. -/
structure Scan where
  /-- The place in the text. -/
  cursor : Cursor
  /-- The tokens so far, the last one first. -/
  tokens : List Token := []
  /-- The number of tokens so far. -/
  count : Nat := 0
  /-- The depth of brackets. -/
  depth : Nat := 0
  /-- The column of the innermost list or mapping by indentation; `-1` outside all. -/
  indent : Int := -1
  /-- The columns of those around it, innermost first. -/
  outer : List Int := []
  /-- Whether a key may begin here. -/
  keyAllowed : Bool := true
  /-- The places where a key may have begun, by the depth of brackets. -/
  keys : List (Nat × PossibleKey) := []
deriving DecidableEq, Repr

namespace Scan

/-- Whether the place is between brackets. -/
def flow (s : Scan) : Bool :=
  s.depth != 0

/-- The column of the place. -/
def column (s : Scan) : Int :=
  s.cursor.column

/-- Adds a token. -/
def emit (s : Scan) (t : Token) : Scan :=
  { s with tokens := t :: s.tokens, count := s.count + 1 }

/-- Moves past a number of characters. -/
def skip (s : Scan) (n : Nat) : Scan :=
  { s with cursor := s.cursor.skip n }

/-- Sets whether a key may begin. -/
def allowKey (s : Scan) (allowed : Bool) : Scan :=
  { s with keyAllowed := allowed }

/-! ### Possible keys -/

/-- Gives up the possible key at this depth. A required one must not be given up. -/
def dropKey (s : Scan) : Except Fault Scan :=
  match s.keys.lookup s.depth with
  | none => .ok s
  | some key =>
    if key.required then .error .malformed
    else .ok { s with keys := s.keys.filter (·.1 != s.depth) }

/-- Keeps in mind that a key may begin here. -/
def saveKey (s : Scan) : Except Fault Scan :=
  if s.keyAllowed then do
    let required := !s.flow && s.indent == s.column
    let s ← s.dropKey
    .ok { s with keys := (s.depth, ⟨s.count, required, s.cursor⟩) :: s.keys }
  else .ok s

/-- Whether a key that began there cannot end here any more. -/
def isStale (s : Scan) (key : PossibleKey) : Bool :=
  key.start.line != s.cursor.line || 1024 < s.cursor.index - key.start.index

/-- The possible keys that can still end here. -/
def freshKeys (s : Scan) : List (Nat × PossibleKey) :=
  s.keys.filter fun entry => !s.isStale entry.2

/-- Gives up the possible keys that cannot end here any more. -/
def dropStaleKeys (s : Scan) : Except Fault Scan :=
  if s.keys.any fun entry => s.isStale entry.2 && entry.2.required then .error .malformed
  else .ok { s with keys := s.freshKeys }

/-- The tokens that will not change any more: those before the first one that a key may still
begin with. -/
def settled (s : Scan) : List Token :=
  s.tokens.reverse.take ((s.freshKeys.map (·.2.position)).foldl min s.count)

/-! ### Indentation -/

/-- Ends the lists and mappings that are indented more than a column, given the columns of
those around the innermost one. -/
def unwindFrom (column indent : Int) : List Int → Int × List Int × Nat
  | [] => (indent, [], 0)
  | around :: outer =>
    if column < indent then
      let (indent, outer, ended) := unwindFrom column around outer
      (indent, outer, ended + 1)
    else (indent, around :: outer, 0)

/-- Ends the lists and mappings that are indented more than a column. Between brackets
indentation does not count. -/
def unwind (s : Scan) (column : Int) : Scan :=
  if s.flow then s
  else
    let (indent, outer, ended) := unwindFrom column s.indent s.outer
    { s with
      indent, outer
      tokens := List.replicate ended .blockEnd ++ s.tokens
      count := s.count + ended }

/-- Puts a token in front of the tokens from a position on. -/
def insertAt (s : Scan) (position : Nat) (t : Token) : Scan :=
  let after := s.count - position
  { s with tokens := s.tokens.take after ++ t :: s.tokens.drop after, count := s.count + 1 }

/-- Begins a list or mapping at a column if that is further in; `t` then opens it, in front of
the tokens from a position on. -/
def indentTo (s : Scan) (column : Int) (position : Nat) (t : Token) : Scan :=
  if s.indent < column then
    { s.insertAt position t with indent := column, outer := s.indent :: s.outer }
  else s

/-! ### Spacing and comments -/

/-- Moves to the next token: past spaces, comments and line breaks. A line break outside
brackets allows a key. -/
def toNextToken : Nat → Scan → Scan
  | 0, s => s
  | fuel + 1, s =>
    let c := s.cursor.skipWhile (· == ' ')
    let c := if c.peek 0 == some '#' then c.skipWhile (!isBreak ·) else c
    match c.lineBreak? with
    | none => { s with cursor := c }
    | some (_, c) => toNextToken fuel { s with cursor := c, keyAllowed := s.keyAllowed || !s.flow }

/-! ### Single tokens -/

/-- A marker of a document ends all lists and mappings. -/
def marker (s : Scan) (t : Token) : Except Fault Scan := do
  let s ← (s.unwind (-1)).dropKey
  .ok (((s.allowKey false).skip 3).emit t)

/-- An opening bracket may begin a key. -/
def openBracket (s : Scan) (t : Token) : Except Fault Scan := do
  let s ← s.saveKey
  .ok ((({ s with depth := s.depth + 1 }.allowKey true).skip 1).emit t)

/-- A closing bracket must have been opened. -/
def closeBracket (s : Scan) (t : Token) : Except Fault Scan := do
  let s ← s.dropKey
  if s.depth = 0 then .error .malformed
  else .ok ((({ s with depth := s.depth - 1 }.allowKey false).skip 1).emit t)

/-- A comma between brackets. -/
def comma (s : Scan) : Except Fault Scan := do
  let s ← (s.allowKey true).dropKey
  .ok ((s.skip 1).emit .comma)

/-- A dash begins an item, and a list if it is further in. -/
def dash (s : Scan) : Except Fault Scan := do
  if !s.flow && !s.keyAllowed then .error .malformed
  let s := if s.flow then s else s.indentTo s.column s.count .blockList
  let s ← (s.allowKey true).dropKey
  .ok ((s.skip 1).emit .dash)

/-- A question mark begins a key, and a mapping if it is further in. -/
def question (s : Scan) : Except Fault Scan := do
  if !s.flow && !s.keyAllowed then .error .malformed
  let s := if s.flow then s else s.indentTo s.column s.count .blockMap
  let s ← (s.allowKey !s.flow).dropKey
  .ok ((s.skip 1).emit .key)

/-- A colon begins a value. If a key may have begun before, it did. -/
def colon (s : Scan) : Except Fault Scan :=
  match s.keys.lookup s.depth with
  | some key =>
    let s := { s with keys := s.keys.filter (·.1 != s.depth) }
    let s := s.insertAt key.position .key
    let s := if s.flow then s else s.indentTo key.start.column key.position .blockMap
    .ok (((s.allowKey false).skip 1).emit .value)
  | none =>
    if !s.flow && !s.keyAllowed then .error .malformed
    else
      let s := if s.flow then s else s.indentTo s.column s.count .blockMap
      .ok (((s.allowKey !s.flow).skip 1).emit .value)

/-- A quoted scalar may begin a key. -/
def quoted (s : Scan) (double : Bool) : Except Fault Scan := do
  let s ← s.saveKey
  let (text, c) ← quotedScalar double s.cursor
  .ok (({ s with cursor := c }.allowKey false).emit (.scalar (.quoted text)))

/-- A plain scalar may begin a key. If it ends after a line break, another key may begin. -/
def plain (s : Scan) : Except Fault Scan := do
  let s ← s.saveKey
  let p := plainScalar s.flow (s.indent + 1) s.cursor
  .ok (({ s with cursor := p.cursor }.allowKey p.crossed).emit (.scalar (.plain p.text)))

/-- The characters that no plain scalar begins with, unless by an exception. -/
def isIndicator (c : Char) : Bool :=
  "-?:,[]\x7b\x7d#&*!|>'\"%@".toList.contains c || c == '\x60'

/-- Whether a plain scalar begins here. A dash may begin one if no spacing follows, and outside
brackets so may a question mark and a colon. -/
def startsPlain (s : Scan) (c : Char) : Bool :=
  (!isSpacing c && !isIndicator c) ||
    (!endsWord (s.cursor.peek 1) && (c == '-' || (!s.flow && (c == '?' || c == ':'))))

/-- Reads the token that begins with a character. Directives, anchors, aliases, tags and block
scalars are not read. -/
def token (s : Scan) (c : Char) : Except Fault Scan :=
  let atStart := s.cursor.column == 0
  let spaced := endsWord (s.cursor.peek 1)
  if c == '-' && atStart && s.cursor.startsWith ['-', '-', '-'] then s.marker .documentStart
  else if c == '.' && atStart && s.cursor.startsWith ['.', '.', '.'] then s.marker .documentEnd
  else if c == '[' then s.openBracket .listStart
  else if c == '{' then s.openBracket .mapStart
  else if c == ']' then s.closeBracket .listEnd
  else if c == '}' then s.closeBracket .mapEnd
  else if c == ',' then s.comma
  else if c == '-' && spaced then s.dash
  else if c == '?' && (s.flow || spaced) then s.question
  else if c == ':' && (s.flow || spaced) then s.colon
  else if c == '\'' then s.quoted false
  else if c == '"' then s.quoted true
  else if s.startsPlain c then s.plain
  else .error .malformed

/-- Reads the next token. At the end of the text all lists and mappings end instead, and the
result says so. -/
def advance (s : Scan) : Except Fault (Scan × Bool) := do
  let s ← (s.toNextToken (s.cursor.left + 1)).dropStaleKeys
  let s := s.unwind s.column
  match s.cursor.rest with
  | [] => .ok (← (s.unwind (-1)).dropKey, true)
  | c :: _ => .ok (← s.token c, false)

/-- Reads all tokens. Each one takes at least one character. -/
def all : Nat → Scan → List Token
  | 0, s => s.settled ++ [.broken .malformed]
  | fuel + 1, s =>
    match s.advance with
    | .error fault => s.settled ++ [.broken fault]
    | .ok (s, ended) => if ended then s.tokens.reverse else all fuel s

end Scan

/-- The tokens of a text. A byte order mark at the start is passed over. -/
def tokens (t : Text) : List Token :=
  if t.all isAllowed then
    let start := Cursor.start t
    let start := if t.head? == some '\uFEFF' then start.next else start
    Scan.all (t.length + 1) { cursor := start }
  else [.broken .malformed]

end LivePage.Yaml
