/-
The shortest decimal of a double.

The decimals that read back as a double are those between the midpoints to
its two neighbours; the midpoints themselves belong to it if its mantissa
is even. For one digit, two digits and so on up to seventeen, the two
decimals of that many digits around the double are tried: the first number
of digits with a hit wins, and of two hits the nearer one.

The text is positional from 10^-4 up to 10^16 and has an exponent outside,
with a sign and at least two digits. A number that needs no decimals keeps
one zero behind the point.

* `Decimal` — digits and an exponent of ten;
* `shortest` — the shortest decimal of a positive double;
* `Double.text` — the text of a double.
-/
import LivePage.Number.Double
import LivePage.Text.Basic

namespace LivePage

/-- The number `digits * 10 ^ exponent`. -/
structure Decimal where
  /-- The digits, as a whole number. -/
  digits : Nat
  /-- The power of ten. -/
  exponent : Int
deriving DecidableEq, Repr

/-- The numbers that round to one double, as multiples of the fraction `1 / den`. -/
structure RoundingInterval where
  /-- The midpoint to the neighbour below. -/
  low : Nat
  /-- The double itself. -/
  value : Nat
  /-- The midpoint to the neighbour above. -/
  high : Nat
  /-- The common denominator, which is positive. -/
  den : Nat
  /-- Whether the midpoints round to the double. -/
  closed : Bool
deriving DecidableEq, Repr

namespace RoundingInterval

/-- The interval of the double `mantissa * 2 ^ exponent`. A neighbour below across a power of
two is half as far. -/
def ofDouble (mantissa : Nat) (exponent : Int) : RoundingInterval :=
  let up := powerOf 2 (exponent - 2)
  let below := if mantissa = Double.fullMantissa ∧ Double.minExponent < exponent then 1 else 2
  ⟨(4 * mantissa - below) * up, 4 * mantissa * up, (4 * mantissa + 2) * up,
    powerOf 2 (2 - exponent), mantissa % 2 == 0⟩

/-- Whether the fraction `num / den` lies in the interval. -/
def contains (i : RoundingInterval) (num den : Nat) : Bool :=
  if i.closed then i.low * den ≤ num * i.den && num * i.den ≤ i.high * den
  else i.low * den < num * i.den && num * i.den < i.high * den

end RoundingInterval

/-- The decimal exponent of a positive fraction: the least `d` with `num / den < 10 ^ d`. -/
def decimalTop (num den : Nat) : Int :=
  adjustLog 10 num den ((Double.decimalLength num : Int) - Double.decimalLength den) + 1

/-- The decimal of `n` digits, below a power of ten `top`, that lies in the interval and is
nearest to its value, if one of the two around the value does. -/
def nearestWith (i : RoundingInterval) (top : Int) (n : Nat) : Option Decimal :=
  let e := top - n
  let up := powerOf 10 e
  let down := powerOf 10 (-e)
  -- the value in units of `10 ^ e` is `num / den`
  let num := i.value * down
  let den := i.den * up
  let f := num / den
  let below := i.contains (f * up) down
  let above := i.contains ((f + 1) * up) down
  let r := num % den
  if below && above then
    some ⟨if 2 * r < den ∨ (2 * r = den ∧ f % 2 = 0) then f else f + 1, e⟩
  else if below then some ⟨f, e⟩
  else if above then some ⟨f + 1, e⟩
  else none

/-- The first hit among the given numbers of digits. -/
def firstHit (i : RoundingInterval) (top : Int) : List Nat → Option Decimal
  | [] => none
  | n :: rest => (nearestWith i top n).orElse fun _ => firstHit i top rest

/-- The shortest decimal that reads back as the double `mantissa * 2 ^ exponent`. -/
def shortest (mantissa : Nat) (exponent : Int) : Decimal :=
  let i := RoundingInterval.ofDouble mantissa exponent
  (firstHit i (decimalTop i.value i.den) (List.range' 1 17)).getD ⟨mantissa, exponent⟩

/-- The digits of a decimal without the zeros at their end, and the place of the point, counted
from the first digit. -/
def Decimal.layout (d : Decimal) : Text × Int :=
  let all := Text.ofNat d.digits
  ((all.reverse.dropWhile (· == '0')).reverse, all.length + d.exponent)

/-- An exponent of ten, with a sign and at least two digits. -/
def exponentText (e : Int) : Text :=
  let digits := Text.ofNat e.natAbs
  'e' :: (if e < 0 then '-' else '+') ::
    (List.replicate (2 - digits.length) '0' ++ digits)

/-- A positive decimal as text. -/
def Decimal.text (d : Decimal) : Text :=
  let (digits, point) := d.layout
  if point < -3 ∨ 16 < point then
    (match digits with
      | [] => ['0']
      | [c] => [c]
      | c :: rest => c :: '.' :: rest) ++ exponentText (point - 1)
  else if point ≤ 0 then '0' :: '.' :: (List.replicate (-point).toNat '0' ++ digits)
  else
    let whole := digits.take point.toNat
    let rest := digits.drop point.toNat
    whole ++ List.replicate (point.toNat - whole.length) '0' ++ '.' ::
      if rest.isEmpty then ['0'] else rest

/-- A double as text. -/
def Double.text : Double → Text
  | .finite negative m e =>
    (if negative then ['-'] else []) ++
      if m = 0 then "0.0".toList else (shortest m e).text
  | .infinite negative => if negative then "-inf".toList else "inf".toList
  | .nan => "nan".toList

end LivePage
