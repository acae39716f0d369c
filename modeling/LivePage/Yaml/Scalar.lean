/-
Scalars as they are written: quoted and plain.

A line break inside a scalar is folded: alone it stands for a space, and
with blank lines after it for those lines. Spaces around it vanish. In
double quotes a backslash escapes, also a line break. A plain scalar ends
at a comment, at a colon before spacing, inside brackets also at their
punctuation, and at a line that is not indented far enough.

An escape names a code point, also a surrogate, so that only raw text stands
between quotes. Two escapes never make one character.

* `Scalar` — a scalar as it is written;
* `quotedScalar` — reads a quoted scalar up to its closing quote;
* `plainScalar` — reads a plain scalar;
* `Fault` — why a text is not read.
-/
import LivePage.Text.Raw
import LivePage.Yaml.Cursor

namespace LivePage.Yaml

/-- Why a text is not read. -/
inductive Fault where
  /-- It breaks the rules of the notation. -/
  | malformed
  /-- An escape names a number beyond the last character. -/
  | beyondCharacters
  /-- An escape names a number beyond all machine integers. -/
  | beyondIntegers
  /-- A number with a base mark has no digits. -/
  | noDigits (base : Nat)
  /-- A decimal number has more digits than are read. -/
  | tooManyDigits (count : Nat)
  /-- A number in base 60 has more parts than doubles reach. -/
  | beyondDoubles
deriving DecidableEq, Repr

/-- The wording of a fault; texts that break the rules of the notation have none. -/
def Fault.message? : Fault → Option Text
  | .malformed => none
  | .beyondCharacters => some "chr() arg not in range(0x110000)".toList
  | .beyondIntegers => some "Python int too large to convert to C int".toList
  | .noDigits base =>
    some ("invalid literal for int() with base ".toList ++ Text.ofNat base ++ ": ''".toList)
  | .tooManyDigits count =>
    some ("Exceeds the limit (4300 digits) for integer string conversion: value has ".toList ++
      Text.ofNat count ++
      " digits; use sys.set_int_max_str_digits() to increase the limit".toList)
  | .beyondDoubles => some "int too large to convert to float".toList

/-- A scalar as it is written. -/
inductive Scalar where
  /-- Without quotes. -/
  | plain (t : Text)
  /-- Between quotes. -/
  | quoted (t : RawText)
deriving DecidableEq, Repr

/-! ### Folding -/

/-- The blank lines after a line break, in a quoted scalar. No marker of a document may stand at
the start of a line. -/
def foldedBreaks : Nat → Cursor → Except Fault (Text × Cursor)
  | 0, _ => .error .malformed
  | fuel + 1, c =>
    if c.atMarker then .error .malformed
    else
      let c := c.skipWhile fun ch => ch == ' ' || ch == '\t'
      match c.lineBreak? with
      | none => .ok ([], c)
      | some (b, c) => do
        let (breaks, c) ← foldedBreaks fuel c
        .ok (b :: breaks, c)

/-- What a line break and the blank lines after it stand for. -/
def folded (b : Char) (breaks : Text) : Text :=
  if b != '\n' then b :: breaks
  else if breaks.isEmpty then [' ']
  else breaks

/-! ### Quoted scalars -/

/-- The escapes of one character. -/
def escapes : List (Char × Char) :=
  [('0', '\x00'), ('a', '\x07'), ('b', '\x08'), ('t', '\t'), ('\t', '\t'), ('n', '\n'),
    ('v', '\x0b'), ('f', '\x0c'), ('r', '\r'), ('e', '\x1b'), (' ', ' '), ('"', '"'),
    ('\\', '\\'), ('/', '/'), ('N', '\u0085'), ('_', '\u00a0'), ('L', '\u2028'),
    ('P', '\u2029')]

/-- The number of hexadecimal digits that an escape takes. -/
def escapeWidth? (c : Char) : Option Nat :=
  [('x', 2), ('u', 4), ('U', 8)].lookup c

/-- The value of a hexadecimal digit. -/
def hexValue? (c : Char) : Option Nat :=
  let n := c.toNat
  if 48 ≤ n ∧ n ≤ 57 then some (n - 48)
  else if 65 ≤ n ∧ n ≤ 70 then some (n - 55)
  else if 97 ≤ n ∧ n ≤ 102 then some (n - 87)
  else none

/-- The number that hexadecimal digits stand for. -/
def hexNumber? (t : Text) : Option Nat :=
  t.foldlM (fun n c => (hexValue? c).map (16 * n + ·)) 0

/-- The code point that an escape names. -/
def escapedPoint (digits : Text) (width : Nat) : Except Fault Point :=
  match hexNumber? digits with
  | none => .error .malformed
  | some n =>
    if digits.length < width then .error .malformed
    else if n < 0x110000 then .ok (.ofNumber n)
    else if n < 0x80000000 then .error .beyondCharacters
    else .error .beyondIntegers

/-- Reads an escape, with the cursor past the backslash. -/
def escape (c : Cursor) : Except Fault (RawText × Cursor) :=
  match c.rest with
  | [] => .error .malformed
  | ch :: rest =>
    match escapes.lookup ch, escapeWidth? ch, c.lineBreak? with
    | some escaped, _, _ => .ok ([.char escaped], c.next)
    | none, some width, _ => do
      let point ← escapedPoint (rest.take width) width
      .ok ([point], c.skip (width + 1))
    | none, none, some (_, c) => do
      let (breaks, c) ← foldedBreaks (c.left + 1) c
      .ok (breaks.raw, c)
    | none, none, none => .error .malformed

/-- Reads the rest of a quoted scalar, with the cursor past the opening quote. -/
def quotedFrom (double : Bool) : Nat → Cursor → Except Fault (RawText × Cursor)
  | 0, _ => .error .malformed
  | fuel + 1, c =>
    match c.rest with
    | [] => .error .malformed
    | ch :: rest =>
      if ch == (if double then '"' else '\'') then
        if !double && rest.head? == some '\'' then do
          let (text, c) ← quotedFrom double fuel (c.skip 2)
          .ok (.char '\'' :: text, c)
        else .ok ([], c.next)
      else if double && ch == '\\' then do
        let (escaped, c) ← escape c.next
        let (text, c) ← quotedFrom double fuel c
        .ok (escaped ++ text, c)
      else if isSpacing ch then do
        let isBlank := fun ch => ch == ' ' || ch == '\t'
        let blanks := c.rest.takeWhile isBlank
        let c := c.skipWhile isBlank
        match c.lineBreak? with
        | none =>
          let (text, c) ← quotedFrom double fuel c
          .ok (Text.raw blanks ++ text, c)
        | some (b, c) =>
          let (breaks, c) ← foldedBreaks (c.left + 1) c
          let (text, c) ← quotedFrom double fuel c
          .ok ((folded b breaks).raw ++ text, c)
      else do
        let (text, c) ← quotedFrom double fuel c.next
        .ok (.char ch :: text, c)

/-- Reads a quoted scalar, with the cursor at its opening quote. -/
def quotedScalar (double : Bool) (c : Cursor) : Except Fault (RawText × Cursor) :=
  quotedFrom double (c.left + 1) c.next

/-! ### Plain scalars -/

/-- Punctuation of lists and mappings in brackets. -/
def isFlowMark (c : Char) : Bool :=
  c == ',' || c == '[' || c == ']' || c == '{' || c == '}'

/-- The number of characters of a plain scalar up to the next spacing or its end. -/
def plainLength (flow : Bool) : Text → Nat
  | [] => 0
  | c :: rest =>
    if isSpacing c ||
        (c == ':' && (endsWord rest.head? || (flow && rest.head?.any isFlowMark))) ||
        (flow && (isFlowMark c || c == '?')) then 0
    else plainLength flow rest + 1

/-- What stands between two words of a plain scalar. -/
structure PlainGap where
  /-- What the gap stands for. -/
  text : Text
  /-- The place after the gap. -/
  cursor : Cursor
  /-- Whether the gap goes over a line break. -/
  crossed : Bool
  /-- Whether a marker of a document stops the scalar. -/
  stopped : Bool

/-- The blank lines after a line break, in a plain scalar; whether a marker of a document stopped
them comes last. -/
def plainBreaks : Nat → Cursor → Text × Cursor × Bool
  | 0, c => ([], c, false)
  | fuel + 1, c =>
    let c := c.skipWhile (· == ' ')
    match c.lineBreak? with
    | none => ([], c, false)
    | some (b, c) =>
      if c.atMarker then ([], c, true)
      else
        let (breaks, c, stopped) := plainBreaks fuel c
        (b :: breaks, c, stopped)

/-- Reads what stands after a word of a plain scalar. -/
def plainGap (c : Cursor) : PlainGap :=
  let blanks := c.rest.takeWhile (· == ' ')
  let c := c.skipWhile (· == ' ')
  match c.lineBreak? with
  | none => ⟨blanks, c, false, false⟩
  | some (b, c) =>
    if c.atMarker then ⟨[], c, true, true⟩
    else
      let (breaks, c, stopped) := plainBreaks (c.left + 1) c
      ⟨folded b breaks, c, true, stopped⟩

/-- A plain scalar that was read. -/
structure Plain where
  /-- Its text. -/
  text : Text
  /-- The place after it and the gap behind it. -/
  cursor : Cursor
  /-- Whether that gap goes over a line break. -/
  crossed : Bool

/-- Reads words of a plain scalar. `indent` is the least column of its further lines, and `gap`
what stands between the words read and the next. -/
def plainFrom (flow : Bool) (indent : Int) : Nat → Text → Bool → Cursor → Plain
  | 0, _, crossed, c => ⟨[], c, crossed⟩
  | fuel + 1, gap, crossed, c =>
    let n := plainLength flow c.rest
    if c.peek 0 == some '#' || n == 0 then ⟨[], c, crossed⟩
    else
      let word := c.rest.take n
      let after := plainGap (c.skip n)
      if after.stopped || after.text.isEmpty || after.cursor.peek 0 == some '#' ||
          (!flow && (after.cursor.column : Int) < indent) then
        ⟨gap ++ word, after.cursor, after.crossed⟩
      else
        let more := plainFrom flow indent fuel after.text after.crossed after.cursor
        ⟨gap ++ word ++ more.text, more.cursor, more.crossed⟩

/-- Reads a plain scalar. -/
def plainScalar (flow : Bool) (indent : Int) (c : Cursor) : Plain :=
  plainFrom flow indent (c.left + 1) [] false c

end LivePage.Yaml
