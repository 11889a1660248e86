import Pushbutton.Run.Outcome
import Pushbutton.Stage
import Pushbutton.Workflow.Basic

/-! Workflows and runs as the service shows them. -/

set_option autoImplicit false

namespace Pushbutton.Service

def fieldNames (fields : List Field) : Json := Json.strings (fields.map fun field => field.name)

def actionView (action : Action) : Json :=
  .obj [("id", .str action.id), ("type", .str action.kind.name), ("label", .str action.kind.label),
    ("config", action.params.toFullJson), ("inputs", fieldNames action.kind.reads),
    ("missing", fieldNames (Params.missing action.kind action.params))]

def workflowView (configured : Bool) (workflow : Workflow) : Json :=
  .obj [("configured", .bool configured), ("buttonLabel", .str workflow.label),
    ("displayLabel", .str workflow.displayLabel), ("actions", .arr (workflow.actions.map actionView))]

def controlView (control : Control) (output : Output) : Json :=
  .obj [("label", .str control.label),
    ("style", .obj (control.style.map fun (name, value) => (name, .str value))),
    ("disabled", .bool output.disabled)]

def runView (report : Report) (stage : Stage) : Json :=
  let (notifications, prompts) :=
    match stage.host.surface with
    | .page _ notifications prompts => (notifications, prompts)
    | .console _ _ => ([], [])
  .obj [("steps", .arr (report.steps.map Step.toJson)), ("terminated", .bool report.terminated),
    ("notifications", Json.strings notifications), ("prompts", Json.strings prompts),
    ("reloaded", .bool stage.host.reloaded), ("closed", .bool stage.host.closed),
    ("control", controlView (stage.control.getD {}) stage.output),
    ("output", stage.output.toJson)]

end Pushbutton.Service
