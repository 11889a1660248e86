import Pushbutton.Proofs.Terminal.Command
import Pushbutton.Service.App
import Pushbutton.Terminal.Execution

/-! Edits of the saved workflow, each of which can be said as a command of the program and as a request to the
service. -/

set_option autoImplicit false

namespace Pushbutton

/-- What can be asked for. Parameters are given one after another, and positions as texts. -/
inductive Edit where
  | add (kind : Option Kind) (flags : List (Field × String))
  | remove (id : String)
  | update (id : String) (kind : Option Kind) (flags : List (Field × String))
  | move (source target : String)
  | label (text : String)
  | clear
  deriving DecidableEq, Repr

namespace Edit

/-- The parameters that are given, if any is; of two values for one the last counts. -/
def paramsOf (flags : List (Field × String)) : Option Params :=
  if flags = [] then none
  else some (Params.ofFields fun field => (flags.reverse.find? fun flag => flag.1 == field).map (·.2))

def id? : Edit → Option String
  | .remove id | .update id _ _ => some id
  | .add _ _ | .move _ _ | .label _ | .clear => none

/-! ## As a command -/

def name : Edit → String
  | .add _ _ => "add"
  | .remove _ => "remove"
  | .update _ _ _ => "update"
  | .move _ _ => "move"
  | .label _ => "label"
  | .clear => "clear"

def values : Edit → List String
  | .add _ _ | .clear => []
  | .remove id | .update id _ _ => [id]
  | .move source target => [source, target]
  | .label text => [text]

def kind? : Edit → Option Kind
  | .add kind _ | .update _ kind _ => kind
  | .remove _ | .move _ _ | .label _ | .clear => none

def flags : Edit → List (Field × String)
  | .add _ flags | .update _ _ flags => flags
  | .remove _ | .move _ _ | .label _ | .clear => []

def arguments (edit : Edit) : List String :=
  edit.name :: (edit.values ++ (edit.kind?.toList.flatMap fun kind => ["--type", kind.name]) ++
    edit.flags.flatMap fun (field, value) => [Terminal.Command.flagOf field, value])

def command : Edit → Terminal.Command
  | .add kind flags => .add (kind.getD .alert) (paramsOf flags)
  | .remove id => .remove id
  | .update id kind flags => .update id kind (paramsOf flags)
  | .move source target => .move ((Text.integer? source).getD 0) (Text.integer? target)
  | .label text => .label text
  | .clear => .clear

/-! ## As a request -/

def method : Edit → String
  | .add _ _ | .move _ _ => "POST"
  | .remove _ | .clear => "DELETE"
  | .update _ _ _ => "PATCH"
  | .label _ => "PUT"

def target : Edit → String
  | .add _ _ => "/api/workflow/actions"
  | .remove id | .update id _ _ => "/api/workflow/actions/" ++ id
  | .move _ _ => "/api/workflow/reorder"
  | .label _ => "/api/workflow/label"
  | .clear => "/api/storage"

def changeMembers (kind : Option Kind) (flags : List (Field × String)) : Table Text Json :=
  (kind.toList.map fun kind => (("type" : Text), Json.str kind.name)) ++
    (paramsOf flags).toList.map fun params => (("config" : Text), Json.obj params.toMembers)

def position (text : String) : Int := (Text.integer? text).getD 0

def members? : Edit → Option (Table Text Json)
  | .add kind flags | .update _ kind flags => some (changeMembers kind flags)
  | .move source target => some [("source", .int (position source)), ("destination", .int (position target))]
  | .label text => some [("buttonLabel", .str text)]
  | .remove _ | .clear => none

def request (edit : Edit) (headers : Table String String) : Service.Request where
  method := edit.method
  target := edit.target
  headers
  body := (edit.members?.map fun members => (Json.obj members).render).getD ""

/-! ## On both channels -/

/-- The edit can be said on both channels: what it says is taken for values on the command line, an action is
addressed by an id as new actions get them, and positions are whole numbers. -/
structure Sayable (edit : Edit) : Prop where
  values : ∀ value ∈ edit.values ++ edit.flags.map (·.2),
    (Terminal.Command.rulesOf edit.name).ReadsValue value
  addressed : ∀ id ∈ edit.id?, ∃ number, id = identifier number
  positions : ∀ source target, edit = .move source target →
    (Text.integer? source).isSome ∧ (Text.integer? target).isSome

end Edit

end Pushbutton
