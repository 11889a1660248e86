import Pushbutton.Text.Quoted
import Pushbutton.Workflow.Basic

/-! A workflow as lines of text for people. -/

set_option autoImplicit false

namespace Pushbutton

namespace Action

def parameterText (action : Action) : String :=
  ", ".intercalate ((action.params.present action.kind.reads).map fun (field, value) =>
    field.name ++ "=" ++ Text.quoted value)

def missingText (missing : List Field) : String :=
  if missing.isEmpty then ""
  else " (missing: " ++ ", ".intercalate (missing.map Field.name) ++ "; will be skipped)"

def line (index : Nat) (action : Action) : Text :=
  let parameters := action.parameterText
  "  " ++ Text.natText index ++ ". " ++ action.kind.label ++ " [" ++ action.id ++ "]" ++
    (if parameters = "" then "" else " " ++ parameters) ++
    missingText (Params.missing action.kind action.params)

end Action

namespace Workflow

def actionLines : Nat → List Action → List Text
  | _, [] => []
  | index, action :: rest => action.line index :: actionLines (index + 1) rest

def describe (workflow : Workflow) : List Text :=
  ("Button: " ++ workflow.displayLabel) ::
    (if workflow.actions.isEmpty then ["  (no actions)"] else actionLines 0 workflow.actions)

end Workflow

end Pushbutton
