/-!
# Log events

What the library reports beside its results: a level, a message and named fields.
-/

namespace GameFixes

/-- How much an event matters. -/
inductive Level
  | debug
  | info
  | warn
  deriving DecidableEq, Repr

/-- How a level is written. -/
def Level.text : Level → String
  | .debug => "DEBUG"
  | .info => "INFO"
  | .warn => "WARN"

/-- The value of an event's field. -/
inductive FieldValue
  | text (value : String)
  | number (value : Nat)
  deriving DecidableEq, Repr

/-- One event. -/
structure Event where
  level : Level
  message : String
  fields : List (String × FieldValue) := []
  deriving DecidableEq, Repr

end GameFixes
