import Pushbutton.Validation
import Pushbutton.Workflow.Kind

/-! The parameters of an action. All six are kept whatever the kind reads, and an absent one differs
from an empty one. -/

set_option autoImplicit false

namespace Pushbutton

structure Params where
  message : Option Text := none
  text : Option Text := none
  imageUrl : Option Text := none
  key : Option Text := none
  value : Option Text := none
  color : Option Text := none
  deriving DecidableEq, Repr

namespace Params

def get (params : Params) : Field → Option Text
  | .message => params.message
  | .text => params.text
  | .imageUrl => params.imageUrl
  | .key => params.key
  | .value => params.value
  | .color => params.color

def ofFields (choose : Field → Option Text) : Params where
  message := choose .message
  text := choose .text
  imageUrl := choose .imageUrl
  key := choose .key
  value := choose .value
  color := choose .color

theorem get_ofFields (choose : Field → Option Text) (field : Field) :
    (ofFields choose).get field = choose field := by cases field <;> rfl

def present (params : Params) (fields : List Field) : List (Field × Text) :=
  fields.filterMap fun field => (params.get field).map (field, ·)

def missing (kind : Kind) (params : Params) : List Field :=
  kind.needs.filter fun field => (params.get field).getD "" == ("" : Text)

/-- Absent parameters are left out. -/
def toMembers (params : Params) : List (Text × Json) :=
  (params.present Field.all).map fun (field, value) => (field.name, .str value)

def toFullJson (params : Params) : Json :=
  .obj (Field.all.map fun field => (field.name, Json.optional .str (params.get field)))

/-- One member of an object of parameters; an absent member counts as null. -/
def check (members : Table Text Json) (field : Field) : Checked (Option Text) :=
  Checked.within (.name field.name) (Checked.textOrNull ((members.get? field.name).getD .null))

/-- Members of other names are passed over. -/
def ofMembers (members : Table Text Json) : Checked Params := do
  let ((message, text, imageUrl), key, value, color) ←
    Checked.both
      (Checked.both (check members .message)
        (Checked.both (check members .text) (check members .imageUrl)))
      (Checked.both (check members .key)
        (Checked.both (check members .value) (check members .color)))
  return { message, text, imageUrl, key, value, color }

def ofJson (complaint : Complaint) : Json → Checked Params
  | .obj members => ofMembers members
  | other => Checked.fail complaint other

end Params

end Pushbutton
