/-
Events: what allocators note down while they work. An event carries the values of
its fields as text, since the log is read by people.
-/

namespace Allotment

/-- How serious an event is. -/
inductive Level where
  | debug
  | warn
  | error
deriving DecidableEq

/-- One entry of the log: a message and its named values, in order. -/
structure Event where
  level : Level
  message : String
  fields : List (String × String)
deriving DecidableEq

/-- The name of a level in the log. -/
def Level.name : Level → String
  | debug => "DEBUG"
  | warn => "WARN"
  | error => "ERROR"

end Allotment
