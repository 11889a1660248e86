import Pushbutton.Json.Display
import Pushbutton.Workflow.Basic

/-! The record of a workflow: the JSON value under which it is saved and sent. -/

set_option autoImplicit false

namespace Pushbutton

inductive RecordFault where
  | notObject
  | badLabel
  | badActions
  | entryNotObject
  | missingId
  | unknownKind (given : Json)
  | badConfig (id : Text)
  | duplicateId (id : Text)
  deriving Repr

def RecordFault.message : RecordFault → Text
  | .notObject => "Workflow record must be an object"
  | .badLabel => "buttonLabel must be a string"
  | .badActions => "actions must be a list"
  | .entryNotObject => "Action entry must be an object"
  | .missingId => "Action entry is missing a string id"
  | .unknownKind given => "Unknown action type: " ++ given.shown
  | .badConfig id => "Invalid config for action " ++ id
  | .duplicateId id => "Duplicate action id: " ++ id

namespace Kind

def ofJson? : Json → Option Kind
  | .str name => name.string?.bind ofName?
  | _ => none

def unknownMessage (given : Json) : String := given.shown ++ " is not a valid ActionKind"

end Kind

namespace Action

/-- The parameters have no member when all of them are absent. -/
def toJson (action : Action) : Json :=
  let config := action.params.toMembers
  .obj (("id", .str action.id) :: ("type", .str action.kind.name) ::
    if config.isEmpty then [] else [("config", .obj config)])

def readId (members : Table Text Json) : Except RecordFault Text :=
  match members.get? "id" with
  | some (.str id) => if id = "" then .error .missingId else .ok id
  | _ => .error .missingId

def readKind (given : Json) : Except RecordFault Kind :=
  match Kind.ofJson? given with
  | some kind => .ok kind
  | none => .error (.unknownKind given)

def readParams (id : Text) (config : Json) : Except RecordFault Params :=
  match config with
  | .null => .ok {}
  | .obj members =>
    match Params.ofMembers members with
    | .ok params => .ok params
    | .error _ => .error (.badConfig id)
  | _ => .error (.badConfig id)

def ofJson : Json → Except RecordFault Action
  | .obj members => do
    let id ← readId members
    let kind ← readKind ((Table.get? members "type").getD .null)
    let params ← readParams id ((Table.get? members "config").getD .null)
    return ⟨id, kind, params⟩
  | _ => .error .entryNotObject

end Action

namespace Workflow

def toJson (workflow : Workflow) : Json :=
  .obj [("buttonLabel", .str workflow.label), ("actions", .arr (workflow.actions.map Action.toJson))]

/-- A null label counts as an absent one. -/
def readLabel (members : Table Text Json) : Except RecordFault Text :=
  match members.get? "buttonLabel" with
  | none | some .null => .ok ""
  | some (.str label) => .ok label
  | some _ => .error .badLabel

def readEntries (members : Table Text Json) : Except RecordFault (List Json) :=
  match members.get? "actions" with
  | none => .ok []
  | some (.arr entries) => .ok entries
  | some _ => .error .badActions

def readActions : List Json → Except RecordFault (List Action)
  | [] => .ok []
  | entry :: rest => do
    let action ← Action.ofJson entry
    let actions ← readActions rest
    return action :: actions

def firstRepeated? (seen : List Text) : List Text → Option Text
  | [] => none
  | id :: rest => if id ∈ seen then some id else firstRepeated? (id :: seen) rest

def ofJson : Json → Except RecordFault Workflow
  | .obj members => do
    let label ← readLabel members
    let entries ← readEntries members
    let actions ← readActions entries
    -- a faulty entry is reported before a repeated id, wherever the two stand
    match firstRepeated? [] (actions.map (·.id)) with
    | some id => .error (.duplicateId id)
    | none => return ⟨label, actions⟩
  | _ => .error .notObject

end Workflow

end Pushbutton
