import LinkedDocs.Value

/-!
# Log events

What the library reports while it works: a level, a message and named values.
-/

namespace LinkedDocs.Log

/-- The weight of an event. -/
inductive Level where
  | debug
  | info
  | warn
  deriving DecidableEq, Repr

/-- The word for a level. -/
def Level.label : Level → String
  | debug => "DEBUG"
  | info => "INFO"
  | warn => "WARN"

/-- One event. -/
structure Event where
  level : Level
  message : String
  fields : List (String × Value)
  deriving Repr

end LinkedDocs.Log
