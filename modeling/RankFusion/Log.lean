/-!
This module contains the entries of a log.
-/

namespace RankFusion

inductive LogLevel where
  | info
  | warning
  | error
  deriving DecidableEq, Repr

def LogLevel.name : LogLevel → String
  | info => "INFO"
  | warning => "WARNING"
  | error => "ERROR"

/--
The number of a log level. Weightier levels have greater numbers.
-/
def LogLevel.number : LogLevel → Nat
  | info => 20
  | warning => 30
  | error => 40

structure LogEntry where
  level : LogLevel
  text : String
  deriving DecidableEq, Repr

end RankFusion
