import Pushbutton.Stage
import Pushbutton.Workflow.Edit
import Pushbutton.Workflow.Record

/-! The workflow that a store keeps: its record as a JSON text under a key. -/

set_option autoImplicit false

namespace Pushbutton

namespace Workflow

def savedKey : Text := "Configuration"

def recordText (workflow : Workflow) : Text := workflow.toJson.render

def ofRecordText (text : Text) : Except Fault (Except Text Workflow) :=
  match Json.parse text with
  | .error (.malformed problem before) => .ok (.error (problem.describe before))
  | .error (.oversizedInteger digits) => .error (.oversizedInteger digits)
  | .ok value =>
    match ofJson value with
    | .ok workflow => .ok (.ok workflow)
    | .error fault => .ok (.error fault.message)

end Workflow

namespace Stage

/-- A text that is no record is reported and counts as absent. -/
def load (key : Text) : Effect (Option Workflow) := do
  match ← getItem key with
  | none => return none
  | some text =>
    match ← Effect.ofExcept (Workflow.ofRecordText text) with
    | .ok workflow => return some workflow
    | .error reason =>
      note { severity := .warning, logger := storeLogger,
             message := "Ignoring malformed workflow record", extra := [("error", .str reason)] }
      return none

def loadOrEmpty (key : Text) : Effect Workflow := do
  return (← load key).getD {}

def save (key : Text) (workflow : Workflow) : Effect Unit := do
  setItem key workflow.recordText
  note { severity := .debug, logger := storeLogger, message := "Workflow saved",
         extra := [("actions", .int workflow.actions.length)] }

def addAction (kind : Kind) (params : Option Params) : Effect (Text × Workflow) := do
  let workflow ← loadOrEmpty Workflow.savedKey
  let (id, ids) := workflow.freshId (← get).ids
  modify fun stage => { stage with ids }
  let workflow := workflow.push id kind
  let workflow :=
    match params with
    | none => workflow
    | some params => workflow.update id none (some params)
  save Workflow.savedKey workflow
  return (id, workflow)

def editAction (id : Text) (edit : Workflow → Workflow) : Effect (Option Workflow) := do
  let workflow ← loadOrEmpty Workflow.savedKey
  match workflow.find? id with
  | none => return none
  | some _ =>
    let workflow := edit workflow
    save Workflow.savedKey workflow
    return some workflow

def relabel (label : Text) : Effect Workflow := do
  let workflow := (← loadOrEmpty Workflow.savedKey).relabel label
  save Workflow.savedKey workflow
  return workflow

end Stage

end Pushbutton
