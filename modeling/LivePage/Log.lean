/-
Records of what a run does.
-/
import LivePage.Text.Raw

namespace LivePage

/-- How much a record matters. -/
inductive Level where
  /-- For whoever looks into a source. -/
  | debug
  /-- What was done. -/
  | info
  /-- What could not be done and does no harm. -/
  | warning
  /-- What failed. -/
  | error
deriving DecidableEq, Repr

/-- A record of the log. -/
structure Record where
  /-- How much it matters. -/
  level : Level
  /-- What it says. -/
  message : RawText
deriving DecidableEq, Repr

/-- The name of a level. -/
def Level.text : Level → Text
  | .debug => "DEBUG".toList
  | .info => "INFO".toList
  | .warning => "WARNING".toList
  | .error => "ERROR".toList

/-- A record as one line. -/
def Record.line (r : Record) : RawText :=
  r.level.text.raw ++ .char ' ' :: r.message

end LivePage
