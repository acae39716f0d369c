/-
Text as the sequence of its characters.

Sources, markup, scripts and the content of files are all `Text`: lists of
characters, so that every length and position counts characters and every
function below recurses on the data it reads.

* `cut` — splits a list at every element that satisfies a test;
* `Text.lines`, `Text.unlines` — lines end at `'\n'` and nowhere else;
* `Text.trim` — drops blank characters at both ends;
* `Text.occursIn` — one text inside another;
* `inBands` — membership in a table of code point ranges.
-/

namespace LivePage

/-- A sequence of characters. -/
abbrev Text := List Char

/-- The pieces of a list between the elements that satisfy `sep`, which are dropped.
There is always one piece more than there are separators. -/
def cut {α : Type} (sep : α → Bool) : List α → List (List α)
  | [] => [[]]
  | a :: l =>
    if sep a then [] :: cut sep l
    else
      match cut sep l with
      | [] => [[a]]
      | piece :: pieces => (a :: piece) :: pieces

/-- Whether `n` lies in one of the closed ranges of a table. -/
def inBands (bands : List (Nat × Nat)) (n : Nat) : Bool :=
  bands.any fun band => band.1 ≤ n && n ≤ band.2

/-! ### Blank characters -/

/-- The blank characters beyond ASCII. -/
def blankBands : List (Nat × Nat) :=
  [(0x85, 0x85), (0xA0, 0xA0), (0x1680, 0x1680), (0x2000, 0x200A), (0x2028, 0x2029),
    (0x202F, 0x202F), (0x205F, 0x205F), (0x3000, 0x3000)]

/-- Blank characters: the ASCII controls from tab to carriage return and from file
separator to unit separator, the space, and the spaces and line separators of Unicode.
Zero-width characters are not blank. -/
def isBlank (c : Char) : Bool :=
  (9 ≤ c.toNat && c.toNat ≤ 13) || (28 ≤ c.toNat && c.toNat ≤ 32) ||
    (128 ≤ c.toNat && inBands blankBands c.toNat)

namespace Text

/-- The lines of a text. A final `'\n'` is followed by one more, empty line. -/
def lines (t : Text) : List Text :=
  cut (· == '\n') t

/-- Joins lines with `'\n'` between them. -/
def unlines (ls : List Text) : Text :=
  List.intercalate ['\n'] ls

/-- Drops the blank characters at the end. -/
def trimEnd (t : Text) : Text :=
  (t.reverse.dropWhile isBlank).reverse

/-- Drops the blank characters at both ends. -/
def trim (t : Text) : Text :=
  trimEnd (t.dropWhile isBlank)

/-- Whether `pattern` stands somewhere in the text. -/
def occursIn (pattern : Text) : Text → Bool
  | [] => pattern.isEmpty
  | c :: t => pattern.isPrefixOf (c :: t) || occursIn pattern t

/-- The text of a number in decimal digits. -/
def ofNat (n : Nat) : Text :=
  Nat.toDigits 10 n

/-- The text of an integer in decimal digits, with a minus sign if it is negative. -/
def ofInt : Int → Text
  | .ofNat n => ofNat n
  | .negSucc n => '-' :: ofNat (n + 1)

end Text

/-- ASCII letters in lower case; every other character is kept. -/
def lowerAscii (t : Text) : Text :=
  t.map Char.toLower

end LivePage
