/-
Texts quoted for messages.

A quoted text stands between single quotes, or between double quotes if it
holds a single quote and no double one. A backslash and the enclosing quote
are escaped by a backslash; line feed, carriage return and tab are written
`\n`, `\r` and `\t`; every other character that is not printable is written
by its number in lower-case hexadecimal, with the shortest of the forms
`\xhh`, `\uhhhh` and `\Uhhhhhhhh` that holds it.

* `quote` — the quoted form of a raw text.
-/
import LivePage.Text.Printable
import LivePage.Text.Raw

namespace LivePage

/-- A number in hexadecimal, filled up with zeros to a width. -/
def hexPadded (width n : Nat) : Text :=
  let digits := Nat.toDigits 16 n
  List.replicate (width - digits.length) '0' ++ digits

/-- A code point by its number. -/
def escapeCode (n : Nat) : Text :=
  if n < 0x100 then '\\' :: 'x' :: hexPadded 2 n
  else if n < 0x10000 then '\\' :: 'u' :: hexPadded 4 n
  else '\\' :: 'U' :: hexPadded 8 n

/-- A character as it stands between quotes `q`. -/
def escapeChar (q c : Char) : Text :=
  if c == '\\' || c == q then ['\\', c]
  else if c == '\n' then ['\\', 'n']
  else if c == '\r' then ['\\', 'r']
  else if c == '\t' then ['\\', 't']
  else if isPrintable c then [c]
  else escapeCode c.toNat

/-- A code point as it stands between quotes `q`. A surrogate is not printable. -/
def escapePoint (q : Char) : Point → Text
  | .char c => escapeChar q c
  | .surrogate n => escapeCode (Point.surrogate n).number

/-- The quotes that a raw text stands between. -/
def quoteMark (t : RawText) : Char :=
  if t.contains '\'' && !t.contains '"' then '"' else '\''

/-- A raw text between quotes. -/
def quote (t : RawText) : Text :=
  quoteMark t :: t.flatMap (escapePoint (quoteMark t)) ++ [quoteMark t]

end LivePage
