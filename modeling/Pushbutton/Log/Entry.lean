import Pushbutton.Json.Basic

/-! What the program reports about its own work. -/

set_option autoImplicit false

namespace Pushbutton.Log

inductive Severity where
  | debug
  | info
  | warning
  | error
  | critical
  deriving DecidableEq, Repr

namespace Severity

def level : Severity → Nat
  | .debug => 10
  | .info => 20
  | .warning => 30
  | .error => 40
  | .critical => 50

def name : Severity → String
  | .debug => "DEBUG"
  | .info => "INFO"
  | .warning => "WARNING"
  | .error => "ERROR"
  | .critical => "CRITICAL"

end Severity

structure Entry where
  severity : Severity
  logger : String
  message : String
  extra : List (Text × Json) := []
  exception : Option String := none
  deriving Repr

def extraMembers (extra : List (Text × Json)) : List (Text × Json) :=
  if extra.isEmpty then [] else [("extra", .obj extra)]

def exceptionMembers : Option String → List (Text × Json)
  | some text => [("exception", .str text)]
  | none => []

def Entry.members (entry : Entry) : List (Text × Json) :=
  ("level", .str entry.severity.name) :: ("logger", .str entry.logger) :: ("message", .str entry.message) ::
    (extraMembers entry.extra ++ exceptionMembers entry.exception)

end Pushbutton.Log
