/-!
# Journal lines

What the program notes about its own doings, for whoever runs it: a level and a text.
-/

namespace Parley

/-- How much a journal line matters. -/
inductive Level where
  | debug
  | info
  | warn
  deriving DecidableEq, Repr

/-- The name of a level. -/
def Level.name : Level → String
  | .debug => "DEBUG"
  | .info => "INFO"
  | .warn => "WARN"

/-- A line of the journal. -/
structure Note where
  level : Level
  text : String
  deriving DecidableEq, Repr

/-- A line as it is written. -/
def Note.render (n : Note) : String := n.level.name ++ " " ++ n.text

end Parley
