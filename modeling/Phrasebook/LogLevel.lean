import Phrasebook.Text.Basic

/-!
# Log levels
-/

namespace Phrasebook

inductive LogLevel
  | error
  | info
  | debug
  | trace
deriving DecidableEq, Repr

namespace LogLevel

/-- The level for the number of times that more was asked for. -/
def ofCount : Nat → LogLevel
  | 0 => error
  | 1 => info
  | 2 => debug
  | _ => trace

def name : LogLevel → Text
  | error => "ERROR"
  | info => "INFO"
  | debug => "DEBUG"
  | trace => "TRACE"

end LogLevel

end Phrasebook
