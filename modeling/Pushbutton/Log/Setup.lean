import Pushbutton.Log.Line
import Pushbutton.Table
import Pushbutton.Text.UpperCase

/-! Which records are written, and where. -/

set_option autoImplicit false

namespace Pushbutton.Log

/-- The logging of a process: the streams that records are written to, the level of the root, and the
levels that loggers have of their own. Streams are numbered. -/
structure Setup where
  streams : List Nat := []
  root : Nat := 30
  own : Table String Nat := []
  deriving DecidableEq, Repr

def levels : Table String Nat :=
  [("CRITICAL", 50), ("FATAL", 50), ("ERROR", 40), ("WARN", 30), ("WARNING", 30), ("INFO", 20),
    ("DEBUG", 10), ("NOTSET", 0)]

structure UnknownLevel where
  name : String
  deriving DecidableEq, Repr

def UnknownLevel.message (fault : UnknownLevel) : String :=
  "Unknown level: " ++ Text.quoted fault.name

def quiet : List String := ["uvicorn.access", "httpx"]

namespace Setup

/-- The stream takes the place of all others, also when the level is then refused. -/
def configure (setup : Setup) (level : String) (stream : Nat) :
    Except UnknownLevel Unit × Setup :=
  let setup := { setup with streams := [stream] }
  let name := Text.upperCase level
  match levels.get? name with
  | none => (.error ⟨name⟩, setup)
  | some root =>
    (.ok (), { setup with
      root
      own := quiet.foldl (fun own logger => own.put logger (max root 30)) setup.own })

/-- What stands before the dots of a name, longest first; names are read from their ends. Of two dots side by side only
the last ends a name. -/
def enclosing : List Char → List (List Char)
  | '.' :: c :: rest => (c :: rest) :: enclosing rest
  | _ :: rest => enclosing rest
  | [] => []

def ancestry (logger : String) : List String :=
  logger :: (enclosing logger.toList.reverse).map fun name => String.ofList name.reverse

def effective (setup : Setup) (logger : String) : Nat :=
  (((ancestry logger).findSome? fun name =>
    (setup.own.get? name).bind fun level => if level = 0 then none else some level)).getD setup.root

def loggerName (name : String) : String := if name = "" then "root" else name

/-- The streams that a record of a level is written to; the level is above zero. -/
def targets (setup : Setup) (logger : String) (level : Int) : List Nat :=
  if 0 < level ∧ setup.effective logger ≤ level then setup.streams else []

end Setup

end Pushbutton.Log
