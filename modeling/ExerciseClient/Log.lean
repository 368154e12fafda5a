/-!
Log lines. Operations return the lines that they log, in order.
-/

namespace ExerciseClient

/-- How much a log line matters. -/
inductive Level where
  | debug
  | info
  | warn
  | error
deriving DecidableEq, Repr

/-- A level's name. -/
def Level.name : Level → String
  | debug => "DEBUG"
  | info => "INFO"
  | warn => "WARN"
  | error => "ERROR"

/-- A log line. -/
structure LogLine where
  level : Level
  message : String
deriving DecidableEq, Repr

/-- Log lines in order. -/
abbrev Log := List LogLine

/-- A line for tracing. -/
def debug (message : String) : LogLine := ⟨.debug, message⟩

/-- A line that informs. -/
def info (message : String) : LogLine := ⟨.info, message⟩

/-- A line that warns. -/
def warn (message : String) : LogLine := ⟨.warn, message⟩

/-- A line that reports an error. -/
def error (message : String) : LogLine := ⟨.error, message⟩

end ExerciseClient
