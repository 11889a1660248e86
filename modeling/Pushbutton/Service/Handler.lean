import Pushbutton.Run.Live
import Pushbutton.Service.Body
import Pushbutton.Service.Route
import Pushbutton.Service.View
import Pushbutton.Settings.Basic
import Pushbutton.Workflow.Saved

/-! What the service does for each of its routes. -/

set_option autoImplicit false

namespace Pushbutton.Service

open Stage

def routerLogger : String := "button_workflow.server.router"

def version : String := "0.1.0"

def shown (workflow : Workflow) : Response := .ofJson (workflowView true workflow)

def notFound : Response := .refusal 404 (.str "Action not found")

def shownAction (status : Nat) (workflow : Workflow) (id : Text) : Response :=
  match workflow.find? id with
  | some action => { status, content := .json (actionView action) }
  | none => notFound

/-- A request whose body does not have its form changes nothing. -/
def withBody {α : Type} (form : Json → Checked α) (request : Request)
    (handle : α → Effect Response) : Effect Response :=
  match readBody form request with
  | .ok value => handle value
  | .error fault => Effect.ofExcept fault.response

def readWorkflow : Effect Response := do
  match ← load Workflow.savedKey with
  | some workflow => return shown workflow
  | none => return .ofJson (workflowView false {})

def replaceWorkflow (record : Json) : Effect Response := do
  match Workflow.ofJson record with
  | .error fault => return .refusal 422 (.str fault.message)
  | .ok workflow =>
    save Workflow.savedKey workflow
    return shown workflow

def relabel (label : Text) : Effect Response := do
  return shown (← Stage.relabel label)

def addAction (given : NewAction) : Effect Response := do
  let (id, workflow) ← Stage.addAction given.kind given.params
  return shownAction 201 workflow id

def amendAction (id : String) (given : Amendment) : Effect Response := do
  match ← editAction id fun workflow => workflow.update id given.kind given.params with
  | some workflow => return shownAction 200 workflow id
  | none => return notFound

def removeAction (id : String) : Effect Response := do
  match ← editAction id fun workflow => workflow.remove id with
  | some _ => return .noContent
  | none => return notFound

def outOfRange : Response := .refusal 422 (.str "Index out of range")

def reorder (given : Move) : Effect Response := do
  let workflow ← loadOrEmpty Workflow.savedKey
  let count := workflow.actions.length
  match given.target with
  | none => return shown workflow
  | some target =>
    if 0 ≤ given.source ∧ given.source < count ∧ 0 ≤ target ∧ target < count then
      match workflow.reorder given.source target with
      | .ok workflow =>
        save Workflow.savedKey workflow
        return shown workflow
      -- out of reach, except for positions that no machine word has
      | .error fault => Effect.fail (.external "IndexError" fault.message)
    else return outOfRange

def readOutput : Effect Response := do
  return .ofJson (← kept).toJson

/-- A workflow is run on a page of its own, with the answers given. -/
def play (settings : Settings) (given : RunOrder) (workflow : Workflow) : Effect Response := do
  restore
  modify fun stage =>
    { stage with
      host := .page given.answers given.openedByOther
      control := some { label := workflow.displayLabel } }
  -- a delay that is too long is found only now, with the page set up already
  let pause ← Effect.ofExcept settings.pause
  let report ← Stage.run pause workflow
  return .ofJson (runView report (← get))

def run (settings : Option Settings) (given : RunOrder) : Effect Response := do
  match settings with
  | none => return .refusal 500 (.str "Server settings not configured")
  | some settings =>
    match ← load Workflow.savedKey with
    | none => return .refusal 409 (.str "No workflow configured")
    | some workflow => play settings given workflow

def clearStorage : Effect Response := do
  Stage.clear
  note { severity := .warning, logger := routerLogger, message := "Storage cleared" }
  return .noContent

def handle (settings : Option Settings) (request : Request) : Route → Effect Response
  | .health => return .ofJson (.obj [("status", .str "ok"), ("version", .str version)])
  | .readWorkflow => readWorkflow
  | .replaceWorkflow => withBody anyObject request replaceWorkflow
  | .relabel => withBody newLabel request relabel
  | .addAction => withBody newAction request addAction
  | .amendAction id => withBody amendment request (amendAction id)
  | .removeAction id => removeAction id
  | .reorder => withBody move request reorder
  | .readOutput => readOutput
  | .run => withBody runOrder request (run settings)
  | .clearStorage => clearStorage

end Pushbutton.Service
