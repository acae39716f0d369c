/-
What a plain scalar stands for.

A plain scalar is a null, a truth value, an integer or a float if it is
written as one, and a text otherwise. Integers may be written in base 2, 8,
10, 16 and 60, floats in base 10 and 60, both with underscores.

* `integer?` — the integer that a scalar stands for;
* `float?` — the float that a scalar stands for;
* `resolve` — what a scalar stands for.
-/
import LivePage.Number.Reading
import LivePage.Yaml.Scalar
import LivePage.Yaml.Value

namespace LivePage.Yaml

/-- The spellings of nothing. -/
def nullWords : List String :=
  ["", "~", "null", "Null", "NULL"]

/-- The spellings of the two truth values. -/
def boolWord? (t : Text) : Option Bool :=
  let word := String.ofList t
  if ["yes", "Yes", "YES", "true", "True", "TRUE", "on", "On", "ON"].contains word then some true
  else if ["no", "No", "NO", "false", "False", "FALSE", "off", "Off", "OFF"].contains word then
    some false
  else none

/-- A text without its underscores. -/
def withoutUnderscores (t : Text) : Text :=
  t.filter (· != '_')

/-- Whether a text is not empty and holds only digits that satisfy a test, and underscores. -/
def areDigits (isDigit : Char → Bool) (t : Text) : Bool :=
  !t.isEmpty && t.all fun c => isDigit c || c == '_'

/-- Whether a text is a number in decimal digits and underscores that begins with a digit other
than zero. -/
def isCounting (t : Text) : Bool :=
  t.head?.any (fun c => isAsciiDigit c && c != '0') && areDigits isAsciiDigit t

/-- Whether a text is a number in decimal digits and underscores that begins with a digit. -/
def isDecimal (t : Text) : Bool :=
  t.head?.any isAsciiDigit && areDigits isAsciiDigit t

/-- Whether a text is a number below sixty in one or two digits. -/
def isSixtieth (t : Text) : Bool :=
  t.all isAsciiDigit && (t.length == 1 || (t.length == 2 && t.head?.any (· < '6')))

/-- The number that digits in a base stand for, without underscores. -/
def inBase (base : Nat) (t : Text) : Except Fault Nat :=
  let digits := withoutUnderscores t
  if digits.isEmpty then .error (.noDigits base)
  else .ok (digits.foldl (fun n c => base * n + (hexValue? c).getD 0) 0)

/-- The number that decimal digits stand for, without underscores. -/
def inDecimal (t : Text) : Except Fault Nat :=
  let digits := withoutUnderscores t
  if maxDecimalDigits < digits.length then .error (.tooManyDigits digits.length)
  else .ok (digitsValue digits)

/-- The integer that an unsigned scalar stands for, if it is written as one: in base 2, 8, 10, 16
or 60. -/
def natural? (t : Text) : Option (Except Fault Nat) :=
  match t, cut (· == ':') t with
  | '0' :: 'b' :: digits, [_] =>
    if areDigits (fun c => c == '0' || c == '1') digits then some (inBase 2 digits) else none
  | '0' :: 'x' :: digits, [_] =>
    if areDigits (fun c => (hexValue? c).isSome) digits then some (inBase 16 digits) else none
  | ['0'], _ => some (.ok 0)
  | '0' :: digits, [_] =>
    if areDigits (fun c => '0' ≤ c && c ≤ '7') digits then some (inBase 8 ('0' :: digits)) else none
  | _, [digits] => if isCounting digits then some (inDecimal digits) else none
  | _, first :: rest =>
    if isCounting first && rest.all isSixtieth then
      some do
        let parts ← (first :: rest).mapM inDecimal
        .ok (parts.foldl (fun n part => 60 * n + part) 0)
    else none
  | _, _ => none

/-- The integer that a scalar stands for, if it is written as one. -/
def integer? (t : Text) : Option (Except Fault Int) :=
  let (negative, body) := splitSign t
  (natural? body).map fun n => n.map (Double.signed negative)

/-- Whether a text is empty or an exponent with a sign. -/
def isSignedExponent : Text → Bool
  | [] => true
  | e :: sign :: digits =>
    (e == 'e' || e == 'E') && (sign == '+' || sign == '-') && !digits.isEmpty &&
      digits.all isAsciiDigit
  | _ => false

/-- The float in base 60 with these parts, most significant last: each is multiplied and added
in double precision. The power of 60 of each part must be a double too. -/
def sixties (base : Nat) (total : Double) : List Double → Except Fault Double
  | [] => .ok total
  | part :: rest =>
    match Double.ofInt? base with
    | some power => sixties (base * 60) (total.add (part.mul power)) rest
    | none => .error .beyondDoubles

/-- The float that an unsigned scalar stands for, if it is written with a point: a decimal, where
an exponent has a sign, or a number in base 60. -/
def fraction? (t : Text) : Option (Except Fault Double) :=
  let whole := t.takeWhile (· != '.')
  match t.dropWhile (· != '.') with
  | [] => none
  | _ :: rest =>
    let digits := rest.takeWhile fun c => isAsciiDigit c || c == '_'
    let tail := rest.dropWhile fun c => isAsciiDigit c || c == '_'
    match cut (· == ':') whole with
    | [_] =>
      if isDecimal whole && isSignedExponent tail then
        (decimalOf? false (withoutUnderscores t)).map .ok
      else none
    | first :: sixtieths =>
      if isDecimal first && sixtieths.all isSixtieth && tail.isEmpty then
        let last := (sixtieths.getLast?.getD []) ++ '.' :: digits
        let parts := first :: sixtieths.dropLast ++ [last]
        (parts.mapM fun part => decimalOf? false (withoutUnderscores part)).map fun parts =>
          sixties 1 (Double.zero false) parts.reverse
      else none
    | [] => none

/-- The float that a scalar stands for, if it is written as one. -/
def float? (t : Text) : Option (Except Fault Double) :=
  let (negative, body) := splitSign t
  let signed : Double → Double := fun d => if negative then d.neg else d
  if [".inf", ".Inf", ".INF"].contains (String.ofList body) then some (.ok (.infinite negative))
  else if [".nan", ".NaN", ".NAN"].contains (String.ofList t) then some (.ok .nan)
  else
    match t with
    | '.' :: rest =>
      -- no sign may stand before a point that begins the number
      let digits := rest.takeWhile fun c => isAsciiDigit c || c == '_'
      let tail := rest.dropWhile fun c => isAsciiDigit c || c == '_'
      if isDecimal digits && isSignedExponent tail then
        (decimalOf? false (withoutUnderscores t)).map .ok
      else none
    | _ => (fraction? body).map fun d => d.map signed

/-- What a plain scalar stands for. The two words kept for keys stand for nothing. -/
def resolve (t : Text) : Except Fault Value :=
  if nullWords.contains (String.ofList t) then .ok .null
  else if t == ['='] || t == ['<', '<'] then .error .malformed
  else
    match boolWord? t, float? t, integer? t with
    | some b, _, _ => .ok (.bool b)
    | none, some d, _ => d.map .float
    | none, none, some n => n.map .int
    | none, none, none => .ok (.text t.raw)

end LivePage.Yaml
