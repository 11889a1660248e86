import Pushbutton.Json.Basic
import Pushbutton.Table

/-! Requests to the service and its responses. -/

set_option autoImplicit false

namespace Pushbutton.Service

/-- Names of headers are in lower case. -/
structure Request where
  method : String
  target : String
  headers : Table String String := []
  body : Text := ""
  deriving DecidableEq, Repr

inductive Content where
  | empty
  | json (value : Json)
  | text (text : String)
  deriving Repr

structure Response where
  status : Nat := 200
  content : Content
  headers : Table String String := []
  deriving Repr

namespace Response

def ofJson (value : Json) : Response := { content := .json value }

def refusal (status : Nat) (detail : Json) : Response :=
  { status, content := .json (.obj [("detail", detail)]) }

def noContent : Response := { status := 204, content := .empty }

/-- A response to the method HEAD has no content. -/
def forMethod (response : Response) (method : String) : Response :=
  if method = "HEAD" then { response with content := .empty } else response

def broken : Response := { status := 500, content := .text "Internal Server Error" }

end Response

end Pushbutton.Service
