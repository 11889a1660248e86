import Pushbutton.Text.Quoted

/-! The two phases of a run, and the only changes between them. -/

set_option autoImplicit false

namespace Pushbutton

inductive Phase where
  | idle
  | running
  deriving DecidableEq, Repr

def Phase.name : Phase → String
  | .idle => "idle"
  | .running => "running"

def Phase.ofName? (name : String) : Option Phase := [Phase.idle, .running].find? (·.name == name)

def Phase.unknownMessage (name : String) : String := Text.quoted name ++ " is not a valid RunState"

structure IllegalTransition where
  source : Phase
  target : Phase
  deriving DecidableEq, Repr

def IllegalTransition.message (fault : IllegalTransition) : String :=
  "Illegal transition: " ++ fault.source.name ++ " -> " ++ fault.target.name

/-- A run never stays in its phase. -/
def Phase.move (source target : Phase) : Except IllegalTransition Phase :=
  if source = target then .error ⟨source, target⟩ else .ok target

end Pushbutton
