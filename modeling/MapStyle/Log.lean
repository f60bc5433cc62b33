/-!
# Log records

What the library reports while it works, in the order in which it happens.
-/

namespace MapStyle.Log

/-- How much a record matters. -/
inductive Level
  | debug
  | info
  | warn
  | error
  deriving DecidableEq, Repr

/-- The lower-case name of a level. -/
def Level.name : Level → String
  | .debug => "debug"
  | .info => "info"
  | .warn => "warn"
  | .error => "error"

/-- One record. -/
structure Entry where
  level : Level
  text : String
  deriving DecidableEq, Repr

/-- A record of each level. -/
def debug (text : String) : Entry := ⟨.debug, text⟩

/-- A record for information. -/
def info (text : String) : Entry := ⟨.info, text⟩

/-- A warning record. -/
def warn (text : String) : Entry := ⟨.warn, text⟩

/-- An error record. -/
def error (text : String) : Entry := ⟨.error, text⟩

end MapStyle.Log
