import Pushbutton.Json.Basic
import Pushbutton.Workflow.Basic

/-! What becomes of the actions of a run. -/

set_option autoImplicit false

namespace Pushbutton

inductive Outcome where
  | completed
  | skipped
  | terminated
  | failed
  deriving DecidableEq, Repr

namespace Outcome

def name : Outcome → String
  | .completed => "completed"
  | .skipped => "skipped"
  | .terminated => "terminated"
  | .failed => "failed"

def ofName? (name : String) : Option Outcome :=
  [completed, skipped, terminated, failed].find? (·.name == name)

end Outcome

structure Step where
  index : Nat
  id : Text
  kind : Kind
  outcome : Outcome
  deriving DecidableEq, Repr

def Step.toJson (step : Step) : Json :=
  .obj [("index", .int step.index), ("action_id", .str step.id), ("kind", .str step.kind.name),
    ("outcome", .str step.outcome.name)]

structure Report where
  steps : List Step := []
  deriving DecidableEq, Repr

namespace Report

def terminated (report : Report) : Bool := report.steps.any fun step => step.outcome == .terminated

def ids (report : Report) : List Text := report.steps.map (·.id)

end Report

end Pushbutton
