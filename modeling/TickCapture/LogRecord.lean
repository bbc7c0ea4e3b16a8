/-! # Log records -/

namespace TickCapture

/-- How serious a log record is. Only records that a reader of the log has to see are kept. -/
inductive LogLevel where
  | warn
  | error
  deriving DecidableEq, Repr

structure LogRecord where
  level : LogLevel
  text : String
  deriving DecidableEq, Repr

def LogRecord.warn (text : String) : LogRecord := ⟨.warn, text⟩

def LogRecord.error (text : String) : LogRecord := ⟨.error, text⟩

end TickCapture
