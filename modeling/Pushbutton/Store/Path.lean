import Pushbutton.Text.Split

/-! Paths of files in their normal form: no empty part and no part that stands for its own directory. -/

set_option autoImplicit false

namespace Pushbutton

/-- A path starts at the working directory, at the root, or at a root written with two slashes. -/
inductive PathStart where
  | working
  | root
  | doubleRoot
  deriving DecidableEq, Repr

structure Path where
  start : PathStart
  parts : List String
  deriving DecidableEq, Repr

namespace Path

def partsOf (text : String) : List String :=
  (Text.parts '/' text).filter fun part => part != "" && part != "."

def startOf : List Char → PathStart
  | '/' :: '/' :: '/' :: _ => .root
  | '/' :: '/' :: _ => .doubleRoot
  | '/' :: _ => .root
  | _ => .working

def ofText (text : String) : Path := ⟨startOf text.toList, partsOf text⟩

def text (path : Path) : String :=
  let parts := "/".intercalate path.parts
  match path.start with
  | .working => if path.parts.isEmpty then "." else parts
  | .root => "/" ++ parts
  | .doubleRoot => "//" ++ parts

/-- The top of a path is its own parent. -/
def parent (path : Path) : Path := { path with parts := path.parts.dropLast }

end Path

end Pushbutton
