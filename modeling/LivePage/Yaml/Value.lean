/-
Values of a YAML document.

A value is a null, a truth value, an integer, a float, a text, a list, a
mapping or a scalar of another kind. Keys may be any scalar; numbers and
truth values are the same key if they are equal as numbers.

* `Value` — the values;
* `Value.sameKey` — when two keys are the same;
* `Value.shown?`, `Value.asText?` — a value in messages and as a text.
-/
import LivePage.Number.Shortest
import LivePage.Text.Quoted

namespace LivePage.Yaml

/-- A value of a document. -/
inductive Value where
  /-- Nothing. -/
  | null
  /-- A truth value. -/
  | bool (b : Bool)
  /-- An integer of any size. -/
  | int (n : Int)
  /-- A float. -/
  | float (d : Double)
  /-- A text, with the surrogates that escapes may have named. -/
  | text (t : RawText)
  /-- A list. -/
  | list (items : List Value)
  /-- A mapping, in the order of its keys. -/
  | map (entries : List (Value × Value))
  /-- A scalar of another kind, such as a date, which is no number: the name of the kind, the
  scalar as it is shown, and the scalar as a text. -/
  | other (kind shown text : Text)

/-! ### Keys -/

/-- A number or truth value as an integer, if it is one. -/
def Value.integer? : Value → Option Int
  | .bool b => some (if b then 1 else 0)
  | .int n => some n
  | .float (.finite negative m e) =>
    if 0 ≤ e then some (Double.signed negative (m * powerOf 2 e))
    else if m % powerOf 2 (-e) = 0 then some (Double.signed negative (m / powerOf 2 (-e)))
    else none
  | _ => none

/-- Whether two scalars are the same key. What is no number is one key. -/
def Value.sameKey (v w : Value) : Bool :=
  match v, w with
  | .null, .null => true
  | .text s, .text t => s == t
  | .other kind shown _, .other kind' shown' _ => kind == kind' && shown == shown'
  | .float .nan, .float .nan => true
  | .float d, .float e => d.same e
  | v, w =>
    match v.integer?, w.integer? with
    | some m, some n => m == n
    | _, _ => false

instance : BEq Value where
  beq := Value.sameKey

/-! ### Values in messages -/

/-- The most digits that a decimal number is read or written with. -/
def maxDecimalDigits : Nat := 4300

/-- The digits of an integer, if they are not more than are written. -/
def integerText? (n : Int) : Option Text :=
  if n.natAbs < powerOf 10 maxDecimalDigits then some (Text.ofInt n) else none

mutual

/-- A value as it is shown in messages, if its integers can be written. -/
def Value.shown? : Value → Option Text
  | .null => some "None".toList
  | .bool b => some (if b then "True".toList else "False".toList)
  | .int n => integerText? n
  | .float d => some d.text
  | .text t => some (quote t)
  | .list items => do some ('[' :: (← Value.shownItems? items) ++ [']'])
  | .map entries => do some ('{' :: (← Value.shownEntries? entries) ++ ['}'])
  | .other _ shown _ => some shown

/-- Items with commas between them. -/
def Value.shownItems? : List Value → Option Text
  | [] => some []
  | [item] => item.shown?
  | item :: rest => do
    some ((← item.shown?) ++ ", ".toList ++ (← Value.shownItems? rest))

/-- Entries with commas between them. -/
def Value.shownEntries? : List (Value × Value) → Option Text
  | [] => some []
  | [(key, value)] => do some ((← key.shown?) ++ ": ".toList ++ (← value.shown?))
  | (key, value) :: rest => do
    some ((← key.shown?) ++ ": ".toList ++ (← value.shown?) ++ ", ".toList ++
      (← Value.shownEntries? rest))

end

/-- A value as a text: a text is itself, a scalar of another kind has a text, and every other value
is as it is shown. -/
def Value.asText? : Value → Option RawText
  | .text t => some t
  | .other _ _ t => some t.raw
  | v => v.shown?.map Text.raw

end LivePage.Yaml
