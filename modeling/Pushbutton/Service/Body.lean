import Pushbutton.Fault
import Pushbutton.Json.Reader
import Pushbutton.Service.Message
import Pushbutton.Text.Integer
import Pushbutton.Text.Split
import Pushbutton.Word
import Pushbutton.Workflow.Record

/-! What the bodies of requests say. -/

set_option autoImplicit false

namespace Pushbutton.Service

/-! Values of lenient forms -/

def integerOfFloat (given : Json) (x : Binary64) : Checked Int :=
  match x with
  | .nan | .infinite _ => Checked.fail .infiniteInteger given
  | x =>
    match x.toInt? with
    | none => Checked.fail .fractionalInteger given
    | some n =>
      if isWord n then .ok n else Checked.fail .oversizedInteger given

/-- Texts of whole numbers and numbers without a fraction count as integers. -/
def integer (given : Json) : Checked Int :=
  match given with
  | .int n => .ok n
  | .bool b => .ok (if b then 1 else 0)
  | .float x => integerOfFloat given x
  | .str text =>
    match text.string?.map Text.lenientInteger with
    | some (.ok n) => .ok n
    | some (.error .tooLong) => Checked.fail .oversizedInteger given
    | some (.error .notInteger) | none => Checked.fail .unreadableInteger given
  | _ => Checked.fail .notInteger given

def integerOrNull : Json → Checked (Option Int)
  | .null => .ok none
  | given => (integer given).map some

def truthOfInteger (given : Json) (n : Int) : Checked Bool :=
  if n = 0 then .ok false
  else if n = 1 then .ok true
  else Checked.fail .unreadableBoolean given

def trueWords : List String := ["1", "on", "t", "true", "y", "yes"]

def falseWords : List String := ["0", "off", "f", "false", "n", "no"]

/-- Zero and one, and words in any case, count as booleans. -/
def boolean (given : Json) : Checked Bool :=
  match given with
  | .bool b => .ok b
  | .str text =>
    match text.string?.map fun text => String.ofList (text.toList.map Char.toLower) with
    | some word =>
      if trueWords.contains word then .ok true
      else if falseWords.contains word then .ok false
      else Checked.fail .unreadableBoolean given
    | none => Checked.fail .unreadableBoolean given
  | .int n =>
    if isWord n then truthOfInteger given n else Checked.fail .notBoolean given
  | .float x =>
    match integerOfFloat given x with
    | .ok n => truthOfInteger given n
    | .error _ => Checked.fail .notBoolean given
  | _ => Checked.fail .notBoolean given

def kind (given : Json) : Checked Kind :=
  match Kind.ofJson? given with
  | some kind => .ok kind
  | none => Checked.fail (.notOneOf (Kind.all.map Kind.name)) given

def kindOrNull : Json → Checked (Option Kind)
  | .null => .ok none
  | given => (kind given).map some

def paramsOrNull : Json → Checked (Option Params)
  | .null => .ok none
  | given => (Params.ofJson .notFields given).map some

def texts : Json → Checked (List (Option Text))
  | .arr items => Checked.each Checked.textOrNull 0 items
  | given => Checked.fail .notList given

/-! Members of bodies -/

def member {α : Type} (members : Table Text Json) (name : String) (check : Json → Checked α)
    (absent : α) : Checked α :=
  match members.get? name with
  | some value => Checked.within (.name name) (check value)
  | none => .ok absent

/-- A member that must be there; without it the whole body is at fault. -/
def needed {α : Type} (members : Table Text Json) (name : String) (check : Json → Checked α) :
    Checked α :=
  match members.get? name with
  | some value => Checked.within (.name name) (check value)
  | none => Checked.within (.name name) (Checked.fail .missing (.obj members))

def fields {α : Type} (check : Table Text Json → Checked α) : Json → Checked α
  | .obj members => check members
  | given => Checked.fail .notFields given

/-! Forms -/

structure NewAction where
  kind : Kind
  params : Option Params
  deriving DecidableEq, Repr

structure Amendment where
  kind : Option Kind
  params : Option Params
  deriving DecidableEq, Repr

/-- Without a target nothing moves. -/
structure Move where
  source : Int
  target : Option Int
  deriving DecidableEq, Repr

structure RunOrder where
  answers : List (Option Text)
  openedByOther : Bool
  deriving DecidableEq, Repr

def newAction : Json → Checked NewAction := fields fun members =>
  (Checked.both (member members "type" kind .alert) (member members "config" paramsOrNull none)).map
    fun (kind, params) => ⟨kind, params⟩

def amendment : Json → Checked Amendment := fields fun members =>
  (Checked.both (member members "type" kindOrNull none)
    (member members "config" paramsOrNull none)).map fun (kind, params) => ⟨kind, params⟩

def move : Json → Checked Move := fields fun members =>
  (Checked.both (needed members "source" integer)
    (member members "destination" integerOrNull none)).map fun (source, target) => ⟨source, target⟩

def newLabel : Json → Checked Text := fields fun members =>
  needed members "buttonLabel" Checked.text

def runOrder : Json → Checked RunOrder := fields fun members =>
  (Checked.both (member members "promptResponses" texts [])
    (member members "openedByOther" boolean false)).map
      fun (answers, openedByOther) => ⟨answers, openedByOther⟩

def anyObject : Json → Checked Json
  | .obj members => .ok (.obj members)
  | given => Checked.fail .notObject given

/-! Bodies -/

def contentType (value : String) : String :=
  let type := Text.strip (String.ofList (value.toList.takeWhile (· != ';')))
  String.ofList (type.toList.map Char.toLower)

def isJson (headers : Table String String) : Bool :=
  match ((headers.get? "content-type").map contentType).map (Text.parts '/') with
  | some ["application", subtype] => subtype == "json" || Text.endsWith "+json" subtype
  | _ => false

inductive BodyFault where
  | invalid (issues : List Issue)
  | unreadable
  deriving Repr

def withoutMark (text : Text) : Text :=
  match text.toList with
  | .char '\uFEFF' :: rest => .ofList rest
  | _ => text

/-- The JSON value of a body; one of another type is a text. -/
def bodyValue (request : Request) : Except BodyFault Json :=
  if isJson request.headers then
    match Json.parse (withoutMark request.body) with
    | .ok value => .ok value
    | .error (.malformed _ before) =>
      .error (.invalid [⟨.malformedJson, [.name "body", .index before.length], .obj []⟩])
    | .error (.oversizedInteger _) => .error .unreadable
  else .ok (.str request.body)

/-- What a body says under a form; an empty one says nothing. -/
def readBody {α : Type} (form : Json → Checked α) (request : Request) : Except BodyFault α :=
  if request.body = "" then .error (.invalid [⟨.missing, [.name "body"], .null⟩])
  else do
    let value ← bodyValue request
    (Checked.within (.name "body") (form value)).mapError .invalid

mutual

def hasNonFinite : Json → Bool
  | .float (.finite _ _ _) => false
  | .float _ => true
  | .arr items => anyNonFinite items
  | .obj members => anyMemberNonFinite members
  | _ => false

def anyNonFinite : List Json → Bool
  | [] => false
  | item :: rest => hasNonFinite item || anyNonFinite rest

def anyMemberNonFinite : List (Text × Json) → Bool
  | [] => false
  | (_, value) :: rest => hasNonFinite value || anyMemberNonFinite rest

end

def placeJson : Place → Json
  | .name name => .str name
  | .index index => .int index

def issueJson (issue : Issue) : Json :=
  .obj [("type", .str issue.complaint.code), ("loc", .arr (issue.place.map placeJson)),
    ("msg", .str issue.complaint.message)]

/-- Faulty values are part of the answer, which fails when one of them cannot be written. -/
def BodyFault.response : BodyFault → Except Fault Response
  | .unreadable => .ok (.refusal 400 (.str "There was an error parsing the body"))
  | .invalid issues =>
    if issues.any fun issue => hasNonFinite issue.value then
      .error (.external "ValueError" "Out of range float values are not JSON compliant")
    else .ok (.refusal 422 (.arr (issues.map issueJson)))

end Pushbutton.Service
