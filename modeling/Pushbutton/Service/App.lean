import Pushbutton.Service.Handler
import Pushbutton.Service.Origin
import Pushbutton.Service.Target

/-! The service as a whole: one request after another on one stage. -/

set_option autoImplicit false

namespace Pushbutton.Service

structure App where
  origins : List String
  /-- The settings for runs, unless they were taken away. -/
  settings : Option Settings

def appLogger : String := "button_workflow.server.app"

def App.start (settings : Settings) : App × Log.Entry :=
  (⟨Settings.originList settings.origins, some settings⟩,
    { severity := .info, logger := appLogger, message := "App created",
      extra := [("storage_path", .str settings.storage.text)] })

/-- The response before any headers for other sites; none stands for an unforeseen fault. -/
def App.answer (app : App) (request : Request) (stage : Stage) : Option Response × Stage :=
  match routing request.method (pathOf request.target) with
  | .unknown => (some (.refusal 404 (.str "Not Found")), stage)
  | .otherMethod allowed =>
    (some { Response.refusal 405 (.str "Method Not Allowed") with headers := [("allow", allowed)] },
      stage)
  | .found route =>
    match (handle app.settings request route).perform stage with
    | (.ok response, stage) => (some response, stage)
    | (.error _, stage) => (none, stage)

/-- A response to an unforeseen fault has no headers for other sites. -/
def App.respond (app : App) (request : Request) (stage : Stage) : Response × Stage :=
  match preflight? app.origins request with
  | some response => (response, stage)
  | none =>
    match app.answer request stage with
    | (none, stage) => (Response.broken.forMethod request.method, stage)
    | (some response, stage) =>
      ((withOrigin app.origins request response).forMethod request.method, stage)

end Pushbutton.Service
