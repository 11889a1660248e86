import Pushbutton.Run.Outcome
import Pushbutton.Stage
import Pushbutton.Workflow.Request

/-! The effect of one action. -/

set_option autoImplicit false

namespace Pushbutton

/-- A parameter, or what stands in for an absent or empty one. -/
def orElse (given : Option Text) (fallback : String) : Text :=
  match given with
  | some text => if text = "" then fallback else text
  | none => fallback

def colorText (number : Nat) : String := "#" ++ String.ofList (Text.hexPadded 6 number)

namespace Request

open Stage

def alertFallback : String := "Alert!"

def promptFallback : String := "Enter your input:"

def closeByHand : String := "Please close it manually."

def enlarged : String := "scale(1.2)"

def absentValue : String := "null"

def styled (property : String) (value : Effect Text) : Effect Outcome := do
  return if ← setStyle property value then .completed else .skipped

def perform : Request → Effect Outcome
  | .alert message => do
    notify (orElse message alertFallback)
    return .completed
  | .showText message => do
    setText (message.getD "")
    return .completed
  | .showImage imageUrl => do
    setImageUrl (imageUrl.getD "")
    return .completed
  | .refreshPage => do
    reload
    return .terminated
  | .setLocalStorage key value => do
    let key := key.getD ""
    if key = "" then return .skipped
    setItem key (value.getD "")
    return .completed
  | .getLocalStorage key => do
    let key := key.getD ""
    if key = "" then return .skipped
    let value ← getItem key
    setText (key ++ ": " ++ value.getD absentValue)
    return .completed
  | .increaseButtonSize => styled "transform" (pure enlarged)
  | .closeWindow => do
    if ← hasOpener then close else notify closeByHand
    return .completed
  | .promptAndShow message => do
    let response := (← prompt (orElse message promptFallback)).getD ""
    if response = "" then return .completed
    setText ("Response: " ++ response)
    setResponse response
    return .completed
  | .changeButtonColor color =>
    let color := color.getD ""
    styled "backgroundColor" (if color = "" then do return colorText (← draw) else pure color)
  | .disableButton => do
    disable
    return .completed

end Request

namespace Action

def dispatchLogger : String := "button_workflow.workflow.dispatcher"

def logFields (action : Action) : List (Text × Json) :=
  [("action_id", .str action.id), ("kind", .str action.kind.name)]

def dispatch (action : Action) : Effect Outcome := do
  let outcome ← (Request.of action.kind action.params).perform
  if outcome = .skipped then
    Stage.note { severity := .debug, logger := dispatchLogger, message := "Action skipped",
                 extra := action.logFields }
  return outcome

end Action

end Pushbutton
