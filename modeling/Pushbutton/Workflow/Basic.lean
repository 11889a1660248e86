import Pushbutton.Workflow.Params

/-! The list of actions behind a button, and the label on it. -/

set_option autoImplicit false

namespace Pushbutton

structure Action where
  id : Text
  kind : Kind
  params : Params := {}
  deriving DecidableEq, Repr

structure Workflow where
  label : Text := ""
  actions : List Action := []
  deriving DecidableEq, Repr

namespace Workflow

def ids (workflow : Workflow) : List Text := workflow.actions.map (·.id)

def defaultLabel : String := "Click Me"

/-- The default label is shown for an empty one and never kept. -/
def displayLabel (workflow : Workflow) : Text :=
  if workflow.label = "" then defaultLabel else workflow.label

def find? (workflow : Workflow) (id : Text) : Option Action :=
  workflow.actions.find? fun action => action.id == id

/-- Actions are told apart by their ids, which are not empty. -/
structure WellFormed (workflow : Workflow) : Prop where
  distinct : workflow.ids.Nodup
  named : ∀ id ∈ workflow.ids, id ≠ ""

end Workflow

end Pushbutton
