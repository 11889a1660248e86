import Pushbutton.Json.Writer
import Pushbutton.Log.Entry
import Pushbutton.Log.Timestamp
import Pushbutton.Text.Placeholder

/-! A log record as one line of JSON. -/

set_option autoImplicit false

namespace Pushbutton.Log

/-- What went wrong when a record was made: nothing, a text, or a value in place of one. -/
inductive Cause where
  | none
  | text (text : Text)
  | value (given : Json)
  deriving Repr

/-- What is reported, before it is written. A message can have values to fill it with, and attributes
that have the name of a part of the record replace that part. -/
structure Record where
  logger : Json
  level : Json
  message : Json
  values : Placeholder.Values
  /-- When the record was made, in seconds from the start of 1970. -/
  created : Json
  extra : List (Text × Json) := []
  exception : Cause := .none
  deriving Repr

inductive LineFault where
  | placeholder (fault : Placeholder.Fault)
  | time (fault : TimeFault)
  | notTime (given : Json)
  | notMethod (given : Json)
  | notCause (given : Json)
  deriving Repr

def LineFault.kind : LineFault → String
  | .placeholder fault => fault.kind
  | .time fault => fault.kind
  | .notTime _ | .notMethod _ => "TypeError"
  | .notCause (.str _) | .notCause (.arr _) => "IndexError"
  | .notCause (.obj _) => "KeyError"
  | .notCause _ => "TypeError"

def LineFault.message : LineFault → String
  | .placeholder fault => fault.message
  | .time fault => fault.message
  | .notTime given =>
    "'" ++ Placeholder.typeName given ++ "' object cannot be interpreted as an integer"
  | .notMethod given => "'" ++ Placeholder.typeName given ++ "' object is not callable"
  | .notCause (.str _) => "string index out of range"
  | .notCause (.arr _) => "list index out of range"
  | .notCause (.obj _) => "2"
  | .notCause given => "'" ++ Placeholder.typeName given ++ "' object is not subscriptable"

def levelName (level : Int) : String :=
  match [Severity.debug, .info, .warning, .error, .critical].find? fun severity =>
      decide ((severity.level : Int) = level) with
  | some severity => severity.name
  | none => if level = 0 then "NOTSET" else "Level " ++ Text.intText level

def ownNames : List Text :=
  ["name", "msg", "args", "levelname", "levelno", "pathname", "filename", "module", "exc_info",
    "exc_text", "stack_info", "lineno", "funcName", "created", "msecs", "relativeCreated", "thread",
    "threadName", "processName", "process", "taskName", "message", "asctime"]

def isPrivate (name : Text) : Bool := name.toList.head? == some (.char '_')

def isExtra (name : Text) : Bool := !ownNames.contains name && !isPrivate name

/-- One object in a list stands for itself. -/
def valuesOf : List Json → Placeholder.Values
  | [.obj (member :: members)] => .single (.obj (member :: members))
  | values => .ordered values

/-- Zero, and what holds nothing, counts as absent. -/
def isAbsent : Json → Bool
  | .null | .bool false | .int 0 | .float (.finite _ 0 _) | .str ⟨[]⟩ | .arr [] | .obj [] => true
  | _ => false

def replacingValues (value : Json) : Placeholder.Values :=
  if isAbsent value then .ordered [] else .single value

def replacingCause (value : Json) : Cause := if isAbsent value then .none else .value value

/-- An attribute that has the name of a part of the record replaces it. -/
def Record.set (record : Record) (name : Text) (value : Json) : Record :=
  match name.string? with
  | some "name" => { record with logger := value }
  | some "levelname" => { record with level := value }
  | some "msg" => { record with message := value }
  | some "args" => { record with values := replacingValues value }
  | some "created" => { record with created := value }
  | some "exc_info" => { record with exception := replacingCause value }
  | _ => if isExtra name then { record with extra := Table.put record.extra name value } else record

def timestamp : Json → Except LineFault (List Char)
  | .float moment => (Timestamp.ofSeconds moment).mapError .time
  | .int moment => (Timestamp.text moment 0).mapError .time
  | .bool moment => (Timestamp.text (if moment then 1 else 0) 0).mapError .time
  | other => .error (.notTime other)

/-- A message is filled only when there are values for it. -/
def fillMessage (message : Json) (values : Placeholder.Values) : Except LineFault Text :=
  let text : Text := .ofList (Placeholder.plain message)
  match values with
  | .ordered [] => .ok text
  | values => (Placeholder.fill text values).mapError .placeholder

def fillName : String := "getMessage"

/-- The message of a record. An attribute that has the name of the method stands in its way. -/
def Record.filled (record : Record) : Except LineFault Text :=
  match Table.get? record.extra fillName with
  | some given => .error (.notMethod given)
  | none => fillMessage record.message record.values

def Cause.members : Cause → Except LineFault (List (Text × Json))
  | .none => .ok []
  | .text shown => .ok [("exception", .str shown)]
  | .value given => .error (.notCause given)

def Record.toJson (record : Record) : Except LineFault Json := do
  let time ← timestamp record.created
  let message ← record.filled
  let cause ← record.exception.members
  return .obj (("timestamp", .str (String.ofList time)) :: ("level", record.level) :: ("logger", record.logger) ::
    ("message", .str message) :: (extraMembers record.extra ++ cause))

def Record.line (record : Record) : Except LineFault Text := record.toJson.map Json.render

def Entry.toRecord (entry : Entry) (created : Binary64) : Record :=
  (entry.extra.filter fun (name, _) => isExtra name).foldl
    (fun record (name, value) => record.set name value)
    { logger := .str entry.logger, level := .str entry.severity.name, message := .str entry.message,
      values := .ordered [], created := .float created,
      exception := (entry.exception.map fun (line : String) => Cause.text line).getD .none }

end Pushbutton.Log
