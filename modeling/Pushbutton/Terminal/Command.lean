import Pushbutton.Terminal.Arguments
import Pushbutton.Text.Integer
import Pushbutton.Workflow.Params

/-! The commands of the program. -/

set_option autoImplicit false

namespace Pushbutton.Terminal

inductive Command where
  | show
  | add (kind : Kind) (params : Option Params)
  | remove (id : String)
  | update (id : String) (kind : Option Kind) (params : Option Params)
  /-- A second pair of dashes in place of the target leaves it without a value. -/
  | move (source : Int) (target : Option Int)
  | label (text : String)
  | run (openedByOther noWait : Bool)
  | output
  | clear
  | serve (host : String) (port : Int)
  deriving DecidableEq, Repr

namespace Command

def program : String := "button-workflow"

def version : String := "0.1.0"

def names : List String :=
  ["show", "add", "remove", "update", "move", "label", "run", "output", "clear", "serve"]

def choiceComplaint (choices : List String) (given : String) : Option String :=
  if choices.contains given then none
  else some ("invalid choice: " ++ Text.quoted given ++ " (choose from " ++
    ", ".intercalate (choices.map fun (choice : String) => Text.quoted choice) ++ ")")

def integerComplaint (given : String) : Option String :=
  match Text.integer? given with
  | some _ => none
  | none => some ("invalid int value: " ++ Text.quoted given)

def helpRule : OptionRule := ⟨["-h", "--help"], .help⟩

def anyValue (names : List String) : OptionRule := ⟨names, .value fun _ => none⟩

def flagOf : Field → String
  | .imageUrl => "--image-url"
  | field => "--" ++ field.name

def actionRules : List OptionRule :=
  helpRule :: ⟨["--type"], .value (choiceComplaint (Kind.all.map Kind.name))⟩ ::
    Field.all.map fun field => anyValue [flagOf field]

def mainRules : Rules where
  program := program
  options := [helpRule, ⟨["--version"], .version⟩]
  positionals := [{ name := "command", complaint? := choiceComplaint names, takesRest := true }]

def rulesOf (name : String) : Rules :=
  let rules (options : List OptionRule) (positionals : List PositionalRule) : Rules :=
    ⟨program ++ " " ++ name, options, positionals⟩
  match name with
  | "add" => rules actionRules []
  | "remove" => rules [helpRule] [{ name := "action_id" }]
  | "update" => rules actionRules [{ name := "action_id" }]
  | "move" =>
    rules [helpRule]
      [{ name := "from_index", complaint? := integerComplaint },
        { name := "to_index", complaint? := integerComplaint }]
  | "label" => rules [helpRule] [{ name := "text" }]
  | "run" => rules [helpRule, ⟨["--opened-by-other"], .flag⟩, ⟨["--no-wait"], .flag⟩] []
  | "serve" => rules [helpRule, anyValue ["--host"], ⟨["--port"], .value integerComplaint⟩] []
  | _ => rules [helpRule] []

def paramsOf (reading : Reading) : Option Params :=
  let given := Params.ofFields fun field => (reading.option? (flagOf field)).map Text.ofString
  if given = {} then none else some given

def kindOf (reading : Reading) : Option Kind := (reading.option? "--type").bind Kind.ofName?

def textAt (reading : Reading) (index : Nat) : String := (reading.positional index).headD ""

def integerAt (reading : Reading) (index : Nat) : Option Int :=
  (reading.positional index).head?.bind Text.integer?

def ofReading (name : String) (reading : Reading) : Command :=
  match name with
  | "add" => .add ((kindOf reading).getD .alert) (paramsOf reading)
  | "remove" => .remove (textAt reading 0)
  | "update" => .update (textAt reading 0) (kindOf reading) (paramsOf reading)
  | "move" => .move ((integerAt reading 0).getD 0) (integerAt reading 1)
  | "label" => .label (textAt reading 0)
  | "run" => .run (reading.has "--opened-by-other") (reading.has "--no-wait")
  | "output" => .output
  | "clear" => .clear
  | "serve" =>
    .serve ((reading.option? "--host").getD "127.0.0.1")
      (((reading.option? "--port").bind Text.integer?).getD 8000)
  | _ => .show

/-- Arguments that fit nowhere are refused when all others have been read. -/
def read (arguments : List String) : Except Stop Command := do
  let outer ← mainRules.read arguments
  match outer.positional 0 with
  | [] => .error (.misuse program "the following arguments are required: command")
  | name :: rest =>
    let inner ← (rulesOf name).read rest
    match outer.extras ++ inner.extras with
    | [] => return ofReading name inner
    | extras =>
      .error (.misuse program ("unrecognized arguments: " ++ " ".intercalate extras))

end Command

end Pushbutton.Terminal
