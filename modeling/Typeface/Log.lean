import Typeface.Text.Host

/-!
# Log records

Operations that log return their records in order, each with a level, the part
of the program that speaks and a message.
-/

namespace Typeface

inductive Severity
  | unset
  | debug
  | info
  | warning
  | error
  | critical
deriving DecidableEq, Repr

namespace Severity

def rank : Severity → Nat
  | unset => 0
  | debug => 10
  | info => 20
  | warning => 30
  | error => 40
  | critical => 50

def name : Severity → String
  | unset => "NOTSET"
  | debug => "DEBUG"
  | info => "INFO"
  | warning => "WARNING"
  | error => "ERROR"
  | critical => "CRITICAL"

/-- The severity of a level name in capitals; two of them have a second name. -/
def ofName? (name : String) : Option Severity :=
  match name with
  | "CRITICAL" => some critical
  | "FATAL" => some critical
  | "ERROR" => some error
  | "WARN" => some warning
  | "WARNING" => some warning
  | "INFO" => some info
  | "DEBUG" => some debug
  | "NOTSET" => some unset
  | _ => none

end Severity

structure LogRecord where
  severity : Severity
  source : String
  message : HostText
deriving DecidableEq, Repr

abbrev Log := List LogRecord

end Typeface
