/-
What a compilation remarks on.

Nothing in a source stops a compilation: what cannot be used is passed
over, with a notice.
-/
import LivePage.Text.Quoted

namespace LivePage

/-- A remark on a source. -/
inductive Notice where
  /-- The command is not known. -/
  | unknownCommand (name : Text)
  /-- A block was closed where none was open. -/
  | nothingToClose
  /-- A block was still open at the end. -/
  | autoClosed (tag : Text)
  /-- A variable without a name. -/
  | namelessVariable
  /-- A `Set` without a target. -/
  | targetlessSet
  /-- An `OnClick` with no element before it. -/
  | clickWithoutElement
deriving DecidableEq, Repr

/-- The wording of a notice. -/
def Notice.message : Notice → Text
  | .unknownCommand name => "Unknown command ".toList ++ quote name.raw
  | .nothingToClose => "Ignoring '\x7d' with no open block".toList
  | .autoClosed tag => "Auto-closing <".toList ++ tag ++ "> at end of input".toList
  | .namelessVariable => "Var without a name, skipped".toList
  | .targetlessSet => "Set without a target, skipped".toList
  | .clickWithoutElement => "OnClick with no preceding element, ignored".toList

end LivePage
