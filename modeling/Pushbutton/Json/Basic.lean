import Pushbutton.Binary64.Basic
import Pushbutton.Table
import Pushbutton.Text.Basic

/-! JSON values. Whole numbers are unbounded, and members keep the order in which they were first named. -/

set_option autoImplicit false

namespace Pushbutton

inductive Json where
  | null
  | bool (value : Bool)
  | int (value : Int)
  | float (value : Binary64)
  | str (value : Text)
  | arr (items : List Json)
  | obj (members : List (Text × Json))
  deriving Repr, BEq, Inhabited

namespace Json

def member? : Json → Text → Option Json
  | .obj members, name => Table.get? members name
  | _, _ => none

def optional {α : Type} (write : α → Json) : Option α → Json
  | some value => write value
  | none => .null

def strings (items : List Text) : Json := .arr (items.map .str)

end Json

end Pushbutton
