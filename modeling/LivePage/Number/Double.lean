/-
Double-precision numbers, by their exact values.

A finite double is a sign, a whole number below 2^53 and a power of two of
at least 2^-1074. All arithmetic is exact arithmetic on fractions followed
by one rounding to the nearest double, where a half goes to the even
neighbour and what is too large becomes infinite.

* `Double.round` — the double nearest to a fraction;
* `Double.ofInt?` — the double nearest to an integer, unless it is too large;
* `Double.ofDecimal` — the double nearest to a decimal;
* `Double.add`, `Double.mul` — sum and product;
* `Double.isPositive` — greater than zero.
-/

namespace LivePage

/-- A double-precision number. -/
inductive Double where
  /-- The number `mantissa * 2 ^ exponent`, or its negation. Zero has two signs. -/
  | finite (negative : Bool) (mantissa : Nat) (exponent : Int)
  /-- An infinity. -/
  | infinite (negative : Bool)
  /-- Not a number. -/
  | nan
deriving DecidableEq, Repr

/-- The quotient of two numbers, rounded to the nearest, and a half to the even one. -/
def roundDiv (num den : Nat) : Nat :=
  let q := num / den
  let r := num % den
  if den < 2 * r ∨ (den = 2 * r ∧ q % 2 = 1) then q + 1 else q

/-- A power of a whole number; a negative exponent counts as zero. -/
def powerOf (base : Nat) (e : Int) : Nat :=
  Nat.pow base e.toNat

/-- The greatest `k` with `base ^ k ≤ num / den`, from a guess that is right or one too large. -/
def adjustLog (base num den : Nat) (guess : Int) : Int :=
  if den * powerOf base guess ≤ num * powerOf base (-guess) then guess else guess - 1

/-- The exponent of the greatest power of two below a positive fraction. -/
def binaryLog (num den : Nat) : Int :=
  adjustLog 2 num den ((num.log2 : Int) - den.log2)

namespace Double

/-- The mantissas with all bits are those from here on. -/
def fullMantissa : Nat := 0x10000000000000

/-- The mantissas are those below. -/
def mantissaBound : Nat := 0x20000000000000

/-- The exponent of the least doubles. -/
def minExponent : Int := -1074

/-- The exponent of the greatest doubles. -/
def maxExponent : Int := 971

/-- Zero with a sign. -/
def zero (negative : Bool) : Double :=
  .finite negative 0 minExponent

/-- A whole number of units of a power of two, where `mantissaBound` units are one bit too many. -/
def ofUnits (negative : Bool) (units : Nat) (exponent : Int) : Double :=
  let carried := units = mantissaBound
  let e := if carried then exponent + 1 else exponent
  if maxExponent < e then .infinite negative
  else .finite negative (if carried then fullMantissa else units) e

/-- The double nearest to the fraction `num / den` of a positive `den`. -/
def round (negative : Bool) (num den : Nat) : Double :=
  if num = 0 then zero negative
  else
    let e := max (binaryLog num den - 52) minExponent
    ofUnits negative (roundDiv (num * powerOf 2 (-e)) (den * powerOf 2 e)) e

/-- The number of decimal digits of a number. -/
def decimalLength (n : Nat) : Nat :=
  (Nat.toDigits 10 n).length

/-- The double nearest to the decimal `digits * 10 ^ exponent`. Decimals far outside the range of
doubles are decided by their length. -/
def ofDecimal (negative : Bool) (digits : Nat) (exponent : Int) : Double :=
  if digits = 0 then zero negative
  else
    let top := decimalLength digits + exponent
    if 310 < top then .infinite negative
    else if top < -330 then zero negative
    else round negative (digits * powerOf 10 exponent) (powerOf 10 (-exponent))

/-- The double nearest to a whole number. -/
def ofNat (n : Nat) : Double :=
  round false n 1

/-- The double nearest to an integer, unless that is infinite. -/
def ofInt? (n : Int) : Option Double :=
  match round (n < 0) n.natAbs 1 with
  | .infinite _ => none
  | d => some d

/-- The number with the other sign. -/
def neg : Double → Double
  | .finite negative m e => .finite (!negative) m e
  | .infinite negative => .infinite (!negative)
  | .nan => .nan

/-- Whether the number is greater than zero. -/
def isPositive : Double → Bool
  | .finite negative m _ => !negative && m != 0
  | .infinite negative => !negative
  | .nan => false

/-- Whether the number is zero or less. Neither this nor `isPositive` holds of what is no
number. -/
def isNonPositive : Double → Bool
  | .finite negative m _ => negative || m == 0
  | .infinite negative => negative
  | .nan => false

/-! ### Arithmetic -/

/-- A sign and a whole number as an integer. -/
def signed (negative : Bool) (n : Nat) : Int :=
  if negative then -(n : Int) else n

/-- Sum. -/
def add : Double → Double → Double
  | .finite s m e, .finite t n f =>
    -- both terms as whole numbers of the smaller of the two units
    let unit := min e f
    let total := signed s (m * powerOf 2 (e - unit)) + signed t (n * powerOf 2 (f - unit))
    if total = 0 then zero (s && t)
    else round (total < 0) (total.natAbs * powerOf 2 unit) (powerOf 2 (-unit))
  | .nan, _ => .nan
  | _, .nan => .nan
  | .infinite s, .infinite t => if s = t then .infinite s else .nan
  | .infinite s, _ => .infinite s
  | _, .infinite t => .infinite t

/-- Product. -/
def mul : Double → Double → Double
  | .finite s m e, .finite t n f =>
    round (s != t) (m * n * powerOf 2 (e + f)) (powerOf 2 (-(e + f)))
  | .nan, _ => .nan
  | _, .nan => .nan
  | .infinite s, .infinite t => .infinite (s != t)
  | .infinite s, .finite t n _ => if n = 0 then .nan else .infinite (s != t)
  | .finite s m _, .infinite t => if m = 0 then .nan else .infinite (s != t)

/-- Equality of numbers: the two zeros are equal, and what is no number equals nothing. -/
def same : Double → Double → Bool
  | .finite s m e, .finite t n f => (m == 0 && n == 0) || (s == t && m == n && e == f)
  | .infinite s, .infinite t => s == t
  | _, _ => false

end Double

end LivePage
