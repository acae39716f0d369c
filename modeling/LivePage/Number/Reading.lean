/-
Reading a double from text.

The text may have blanks around it, the information separators of ASCII
excepted. It is a decimal with an optional sign, point and signed
exponent, where digits may be those of any script and a single underscore
may stand between two digits; or `inf`, `infinity` or `nan` in any case.

* `dropUnderscores?` — takes out underscores that stand between digits;
* `Double.ofText?` — the double that a text stands for.
-/
import LivePage.Number.Double
import LivePage.Text.Digit
import LivePage.Text.Word

namespace LivePage

/-- Blanks that may stand around a number: all but the information separators of ASCII. -/
def isOuterBlank (c : Char) : Bool :=
  isBlank c && !(28 ≤ c.toNat && c.toNat ≤ 31)

/-- A number without the blanks around it. -/
def bareNumber (t : Text) : Text :=
  ((t.dropWhile isOuterBlank).reverse.dropWhile isOuterBlank).reverse

/-- Decimal digits of any script as ASCII digits. -/
def asciiDigits (t : Text) : Text :=
  t.map fun c =>
    match digitValue? c with
    | some v => Char.ofNat (48 + v)
    | none => c

/-- The text without its underscores, if each stands between two digits. `before` says whether
the character before the text is a digit. -/
def dropUnderscoresFrom (before : Bool) : Text → Option Text
  | [] => some []
  | c :: rest =>
    if c = '_' then
      if before && rest.head?.any isAsciiDigit then dropUnderscoresFrom false rest else none
    else (dropUnderscoresFrom (isAsciiDigit c) rest).map (c :: ·)

/-- The text without its underscores, if each stands between two digits. -/
def dropUnderscores? (t : Text) : Option Text :=
  dropUnderscoresFrom false t

/-- The number that ASCII digits stand for. -/
def digitsValue (t : Text) : Nat :=
  t.foldl (fun n c => 10 * n + (c.toNat - 48)) 0

/-- The sign at the start of a text, and the rest. -/
def splitSign : Text → Bool × Text
  | '-' :: rest => (true, rest)
  | '+' :: rest => (false, rest)
  | t => (false, t)

/-- The exponent at the end of a decimal; none is written as nothing. -/
def exponent? : Text → Option Int
  | [] => some 0
  | c :: rest =>
    if c = 'e' ∨ c = 'E' then
      let (negative, digits) := splitSign rest
      if digits.isEmpty || !digits.all isAsciiDigit then none
      else some (Double.signed negative (digitsValue digits))
    else none

/-- The double that an unsigned decimal stands for, with a sign given before. -/
def decimalOf? (negative : Bool) (t : Text) : Option Double :=
  let whole := t.takeWhile isAsciiDigit
  let rest := t.dropWhile isAsciiDigit
  let (fraction, tail) :=
    match rest with
    | '.' :: rest => (rest.takeWhile isAsciiDigit, rest.dropWhile isAsciiDigit)
    | rest => ([], rest)
  if whole.isEmpty && fraction.isEmpty then none
  else
    (exponent? tail).map fun e =>
      Double.ofDecimal negative (digitsValue (whole ++ fraction)) (e - fraction.length)

/-- The double that a text stands for. -/
def Double.ofText? (t : Text) : Option Double := do
  let t ← dropUnderscores? (asciiDigits (bareNumber t))
  let (negative, body) := splitSign t
  match String.ofList (lowerAscii body) with
  | "inf" | "infinity" => some (.infinite negative)
  | "nan" => some .nan
  | _ => decimalOf? negative body

end LivePage
