/-
Statements of the page's script.

A page keeps its variables in one global namespace. The functions here
write the statements of the script; values go into them as written in the
source, without escaping.

* `globalRef`, `assignGlobal` — a variable and its assignment;
* `showText`, `alertBox` — the two effects of a page;
* `inScope`, `addListener` — the two ways to wrap a statement;
* `isCompound` — whether an expression changes a variable;
* `qualify` — puts every bare identifier of an expression into the namespace.
-/
import LivePage.Text.Word

namespace LivePage.Script

/-- The name of the global namespace. -/
def globalNamespace : Text :=
  "window".toList

/-- A global variable. -/
def globalRef (name : Text) : Text :=
  globalNamespace ++ '.' :: name

/-- Sets a global variable. -/
def assignGlobal (name value : Text) : Text :=
  globalRef name ++ " = ".toList ++ value ++ [';']

/-- Shows the value of an expression as the text of the element with an id, if there is one. -/
def showText (id value : Text) : Text :=
  "const el = document.getElementById(\"".toList ++ id ++
    "\"); if(el) el.innerText = ".toList ++ value ++ [';']

/-- Shows a message. -/
def alertBox (message : Text) : Text :=
  "alert(\"".toList ++ message ++ "\");".toList

/-- A statement in a block of its own, so that what it declares stays local. -/
def inScope (statement : Text) : Text :=
  "\x7b ".toList ++ statement ++ " \x7d".toList

/-- Runs a statement at every event of a kind on the element with an id. -/
def addListener (id event statement : Text) : Text :=
  "document.getElementById(\"".toList ++ id ++ "\").addEventListener(\"".toList ++ event ++
    "\", () => \x7b ".toList ++ statement ++ " \x7d);".toList

/-! ### Expressions -/

/-- The operators that change a variable. -/
def compoundOperators : List Text :=
  [['+', '+'], ['-', '-'], ['+', '=']]

/-- Whether an operator that changes a variable stands in the expression. -/
def isCompound (expression : Text) : Bool :=
  compoundOperators.any (Text.occursIn · expression)

/-- The characters that can begin an identifier. -/
def startsName (c : Char) : Bool :=
  isAsciiLetter c || c == '_'

/-- The characters after which an identifier is not bare: it goes on, or is a member. -/
def continuesName (c : Char) : Bool :=
  isWord c || c == '.' || c == '$'

/-- Qualifies the rest of an expression. `literal?` is the quote that ends the string literal
around the rest, if there is one, and `before?` the character before the rest. -/
def qualifyFrom (literal? before? : Option Char) : Text → Text
  | [] => []
  | c :: rest =>
    match literal? with
    | some q => c :: qualifyFrom (if c = q then none else some q) (some c) rest
    | none =>
      if (c = '"' ∨ c = '\'') ∧ c ∈ rest then c :: qualifyFrom (some c) (some c) rest
      else if startsName c ∧ ¬ before?.any continuesName ∧
          (c :: rest).takeWhile isWord ≠ globalNamespace then
        globalRef (c :: qualifyFrom none (some c) rest)
      else c :: qualifyFrom none (some c) rest

/-- Puts every bare identifier of an expression into the global namespace. Members, string
literals and the name of the namespace itself are kept. -/
def qualify (expression : Text) : Text :=
  qualifyFrom none none expression

end LivePage.Script
