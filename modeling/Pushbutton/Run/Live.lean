import Pushbutton.Run.Cursor
import Pushbutton.Run.Dispatch

/-! Runs on a stage, with notices as entries of its log. -/

set_option autoImplicit false

namespace Pushbutton.Stage

def runLogger : String := "button_workflow.workflow.executor"

def defaultPause : Seconds := .binary (.ofRatio false 1 5)

def noticeEntry : Notice Fault → Log.Entry
  | .started actions =>
    { severity := .info, logger := runLogger, message := "Run started",
      extra := [("actions", .int actions)] }
  | .dispatching index action =>
    { severity := .debug, logger := runLogger, message := "Dispatching action",
      extra := ("index", .int index) :: action.logFields }
  | .failed index action fault =>
    { severity := .warning, logger := runLogger, message := "Action failed",
      extra := ("index", .int index) :: action.logFields, exception := some fault.line }
  | .finished steps terminated =>
    { severity := .info, logger := runLogger, message := "Run finished",
      extra := [("dispatched", .int steps), ("terminated", .bool terminated)] }

/-- A pause is an event, and a notice an entry of the log. -/
def performerOf {σ : Type} (modify : (Stage → Stage) → σ → σ)
    (dispatch : Action → σ → Except Fault Outcome × σ) (delay : Seconds) : Performer σ Fault where
  dispatch := dispatch
  pause := modify fun stage => { stage with events := stage.events ++ [.slept delay] }
  notice notice := modify fun stage => { stage with log := stage.log ++ [noticeEntry notice] }

def performer (delay : Seconds) : Performer Stage Fault :=
  performerOf id (fun action stage => action.dispatch.perform stage) delay

def run (delay : Seconds) (workflow : Workflow) : Effect Report := do
  let (report, _, stage) := (performer delay).run workflow (← get)
  set stage
  return report

end Pushbutton.Stage
