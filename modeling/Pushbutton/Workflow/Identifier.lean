import Pushbutton.Text.Digit

/-! Ids for new actions. -/

set_option autoImplicit false

namespace Pushbutton

def identifier (n : Nat) : String := "id_" ++ String.ofList (Text.hexPadded 32 n)

/-- Ids are drawn from a list and, after its end, by counting. -/
structure IdSource where
  pending : List Text := []
  next : Nat := 1
  deriving DecidableEq, Repr

namespace IdSource

def draw (source : IdSource) : Text × IdSource :=
  match source.pending with
  | id :: rest => (id, { source with pending := rest })
  | [] => (identifier source.next, { source with next := source.next + 1 })

def drawsFor (source : IdSource) (count : Nat) : Nat := source.pending.length + count + 1

end IdSource

end Pushbutton
