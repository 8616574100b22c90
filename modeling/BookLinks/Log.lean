/-!
# Log records

What a check reports on the side while it runs: a level and a message. Only warnings and
errors are kept; progress messages are not part of any answer.
-/
namespace BookLinks

inductive Level where
  | info
  | warning
  | error
  deriving Repr, DecidableEq, Inhabited

def Level.name : Level → String
  | .info => "INFO"
  | .warning => "WARNING"
  | .error => "ERROR"

structure LogRecord where
  level : Level
  message : String
  deriving Repr, DecidableEq, Inhabited

/-- A log record as one line: its level, a colon and its message. -/
def LogRecord.line (r : LogRecord) : String := r.level.name ++ ": " ++ r.message

def LogRecord.warning (message : String) : LogRecord := ⟨.warning, message⟩

end BookLinks
