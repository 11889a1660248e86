import Pushbutton.Text.Split

/-! The paths of the service and the methods that each of them has. -/

set_option autoImplicit false

namespace Pushbutton.Service

inductive Route where
  | health
  | readWorkflow
  | replaceWorkflow
  | relabel
  | addAction
  | amendAction (id : String)
  | removeAction (id : String)
  | reorder
  | readOutput
  | run
  | clearStorage
  deriving DecidableEq, Repr

def routesAt (path : String) : List (String × Route) :=
  match Text.parts '/' path with
  | ["", "api", "health"] => [("GET", .health)]
  | ["", "api", "workflow"] => [("GET", .readWorkflow), ("PUT", .replaceWorkflow)]
  | ["", "api", "workflow", "label"] => [("PUT", .relabel)]
  | ["", "api", "workflow", "actions"] => [("POST", .addAction)]
  | ["", "api", "workflow", "actions", id] =>
    if id = "" then [] else [("PATCH", .amendAction id), ("DELETE", .removeAction id)]
  | ["", "api", "workflow", "reorder"] => [("POST", .reorder)]
  | ["", "api", "output"] => [("GET", .readOutput)]
  | ["", "api", "run"] => [("POST", .run)]
  | ["", "api", "storage"] => [("DELETE", .clearStorage)]
  | _ => []

inductive Routing where
  | found (route : Route)
  | otherMethod (allowed : String)
  | unknown
  deriving DecidableEq, Repr

def routeAmong (method : String) : List (String × Route) → Routing
  | [] => .unknown
  | (first, route) :: rest =>
    match ((first, route) :: rest).find? fun entry => entry.1 == method with
    | some entry => .found entry.2
    | none => .otherMethod first

def withoutSlashes (path : String) : String :=
  String.ofList (path.toList.reverse.dropWhile (· == '/')).reverse

/-- Slashes at the end of a path that is not known lead to the path without them. -/
def routing (method path : String) : Routing :=
  match routeAmong method (routesAt path) with
  | .unknown => if path = "/" then .unknown else routeAmong method (routesAt (withoutSlashes path))
  | found => found

end Pushbutton.Service
