import SqlSnippet.Text.CodePoint

/-!
# Log records

A record has a level, the part of the tool that speaks, and a message.  Records
below the level in force are left out.
-/

namespace SqlSnippet

/-- The weight of a log record. -/
inductive Level where
  | debug
  | info
  | warning
  | error
deriving DecidableEq, Repr

namespace Level

def name : Level → String
  | debug => "DEBUG"
  | info => "INFO"
  | warning => "WARNING"
  | error => "ERROR"

def number : Level → Nat
  | debug => 10
  | info => 20
  | warning => 30
  | error => 40

end Level

/-- One line of the log. -/
structure LogRecord where
  level : Level
  source : String
  message : CodeText
deriving DecidableEq, Repr

/-- The records that are heavy enough to be kept. -/
def keepFrom (threshold : Nat) (records : List LogRecord) : List LogRecord :=
  records.filter fun r => threshold ≤ r.level.number

end SqlSnippet
