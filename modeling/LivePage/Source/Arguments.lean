/-
Arguments of a command.

A token with an `=` outside double quotes is an attribute `key=value`;
every other token is positional. An attribute without a key is a bare
separator, as in `Var score = 85`, and is skipped. Values lose one quote
character at each end.

* `splitAssignment` — the two sides of the first `=` outside quotes;
* `Arguments.ofTokens` — sorts tokens into positional values and attributes;
* `Arguments.paramD`, `Arguments.param` — a positional value, with or without a default.
-/
import LivePage.Source.Token
import LivePage.Table

namespace LivePage

/-- The sides of the first `=` outside double quotes, in a text that begins inside
quotes if `inside` holds. Every quote switches between inside and outside. -/
def splitAssignmentFrom (inside : Bool) : Text → Option (Text × Text)
  | [] => none
  | c :: rest =>
    if c = '=' ∧ inside = false then some ([], rest)
    else
      (splitAssignmentFrom (if c = '"' then !inside else inside) rest).map fun sides =>
        (c :: sides.1, sides.2)

/-- The key and the value around the first `=` outside double quotes. -/
def splitAssignment (t : Text) : Option (Text × Text) :=
  splitAssignmentFrom false t

/-- The position of the first `=` outside double quotes. -/
def assignmentIndex? (t : Text) : Option Nat :=
  (splitAssignment t).map (·.1.length)

/-- The arguments of a command, sorted. -/
structure Arguments where
  /-- Positional values without their quotes. -/
  params : List Text := []
  /-- The same positional values as written. -/
  raw : List Token := []
  /-- Attribute values without their quotes. -/
  attrs : Table Text Text := []
deriving DecidableEq, Repr

namespace Arguments

/-- The key and the value of an attribute. A token that begins with `=` has none. -/
def attribute? (token : Token) : Option (Text × Text) :=
  match splitAssignment token.text with
  | none | some ([], _) => none
  | some (key, value) => some (key, stripQuotes value)

/-- The arguments that a list of tokens gives. -/
def ofTokens (tokens : List Token) : Arguments :=
  let positional := tokens.filter fun token => (splitAssignment token.text).isNone
  { params := positional.map (stripQuotes ·.text)
    raw := positional
    attrs := Table.ofList (tokens.filterMap attribute?) }

/-- The positional value at an index, or `default` if it is missing or empty. -/
def paramD (args : Arguments) (index : Nat) (default : Text) : Text :=
  match args.params[index]? with
  | some (c :: rest) => c :: rest
  | _ => default

/-- The positional value at an index; a missing one is empty. -/
def param (args : Arguments) (index : Nat) : Text :=
  args.paramD index []

/-- The value of an attribute, unless it is missing or empty. -/
def attr? (args : Arguments) (key : Text) : Option Text :=
  match args.attrs.get? key with
  | some (c :: rest) => some (c :: rest)
  | _ => none

end Arguments

end LivePage
