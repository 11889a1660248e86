import Pushbutton.Service.Message

/-! Requests from pages of other sites: which sites may read responses, and what they may send. -/

set_option autoImplicit false

namespace Pushbutton.Service

def isAllowed (origins : List String) (origin : String) : Bool :=
  origins.contains "*" || origins.contains origin

def methods : List String :=
  ["DELETE", "GET", "HEAD", "OPTIONS", "PATCH", "POST", "PUT", "QUERY"]

def originHeader (origins : List String) (origin : String) : Table String String :=
  if isAllowed origins origin then [("access-control-allow-origin", origin)] else []

def withOrigin (origins : List String) (request : Request) (response : Response) : Response :=
  let own : Table String String :=
    match request.headers.get? "origin" with
    | none => []
    | some origin => ("access-control-allow-credentials", "true") :: originHeader origins origin
  { response with headers := response.headers ++ ("vary", "Origin") :: own }

def disallowed (origins : List String) (origin method : String) (headers : Table String String) :
    List String :=
  (if isAllowed origins origin then [] else ["origin"]) ++
  (if methods.contains method then [] else ["method"]) ++
  (if headers.contains "access-control-request-private-network" then ["private-network"] else [])

/-- A browser asks before it sends a request from another site; all headers are allowed. -/
def preflight (origins : List String) (origin method : String) (request : Request) : Response :=
  let headers : Table String String :=
    [("access-control-allow-methods", ", ".intercalate methods), ("access-control-max-age", "600"),
      ("access-control-allow-credentials", "true"),
      ("vary", "Origin, Access-Control-Request-Method, Access-Control-Request-Headers, " ++
        "Access-Control-Request-Private-Network")] ++
    originHeader origins origin ++
    (match request.headers.get? "access-control-request-headers" with
      | some wanted => [("access-control-allow-headers", wanted)]
      | none => [])
  match disallowed origins origin method request.headers with
  | [] => { status := 200, content := .text "OK", headers }
  | failures =>
    { status := 400, content := .text ("Disallowed CORS " ++ ", ".intercalate failures), headers }

def preflight? (origins : List String) (request : Request) : Option Response :=
  if request.method = "OPTIONS" then
    match request.headers.get? "origin", request.headers.get? "access-control-request-method" with
    | some origin, some method => some (preflight origins origin method request)
    | _, _ => none
  else none

end Pushbutton.Service
