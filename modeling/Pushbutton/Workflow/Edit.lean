import Pushbutton.Word
import Pushbutton.Workflow.Basic
import Pushbutton.Workflow.Identifier

/-! Edits of a workflow. Actions are addressed by their ids, except that a move names positions. -/

set_option autoImplicit false

namespace Pushbutton

def firstFresh {σ : Type} (draw : σ → Text × σ) (taken : List Text) :
    Nat → σ → Option (Text × σ)
  | 0, _ => none
  | draws + 1, source =>
    let (id, source) := draw source
    if id ∈ taken then firstFresh draw taken draws source else some (id, source)

inductive MoveFault where
  | empty
  | outOfRange
  | beyondWord
  deriving DecidableEq, Repr

def MoveFault.message : MoveFault → String
  | .empty => "pop from empty list"
  | .outOfRange => "pop index out of range"
  | .beyondWord => "Python int too large to convert to C ssize_t"

/-- A position from the front, or from the back when it is negative. -/
def position? (length : Nat) (index : Int) : Option Nat :=
  let fromFront := if index < 0 then index + length else index
  if 0 ≤ fromFront ∧ fromFront < length then some fromFront.toNat else none

/-- A place to insert at is cut to the ones that a list of this length has. -/
def insertionPoint (length : Nat) (index : Int) : Nat :=
  let fromFront := if index < 0 then index + length else index
  min fromFront.toNat length

/-- The item at `source` is taken out and put in again at `target`. Positions are machine words. -/
def moveItem {α : Type} (items : List α) (source target : Int) : Except MoveFault (List α) :=
  if !isWord source then .error .beyondWord
  else if items.isEmpty then .error .empty
  else
    match position? items.length source with
    | none => .error .outOfRange
    | some index =>
      match items[index]? with
      | none => .error .outOfRange
      | some item =>
        -- the target is looked at only once the item is out of the list
        if !isWord target then .error .beyondWord
        else
          let others := items.eraseIdx index
          .ok (others.insertIdx (insertionPoint others.length target) item)

namespace Action

/-- Only what is given is replaced, and parameters are replaced as a whole. -/
def amend (kind : Option Kind) (params : Option Params) (action : Action) : Action :=
  { action with kind := kind.getD action.kind, params := params.getD action.params }

end Action

namespace Workflow

def push (workflow : Workflow) (id : Text) (kind : Kind) : Workflow :=
  { workflow with actions := workflow.actions ++ [⟨id, kind, {}⟩] }

def append? {σ : Type} (draw : σ → Text × σ) (draws : Nat) (kind : Kind) (workflow : Workflow)
    (source : σ) : Option (Workflow × σ) :=
  (firstFresh draw workflow.ids draws source).map fun (id, source) => (workflow.push id kind, source)

def freshId (workflow : Workflow) (source : IdSource) : Text × IdSource :=
  (firstFresh IdSource.draw workflow.ids (source.drawsFor workflow.actions.length) source).getD
    source.draw

def append (kind : Kind) (workflow : Workflow) (source : IdSource) : Workflow × IdSource :=
  let (id, source) := workflow.freshId source
  (workflow.push id kind, source)

def remove (workflow : Workflow) (id : Text) : Workflow :=
  { workflow with actions := workflow.actions.filter fun action => action.id != id }

def update (workflow : Workflow) (id : Text) (kind : Option Kind) (params : Option Params) :
    Workflow :=
  { workflow with
    actions := workflow.actions.map fun action =>
      if action.id = id then action.amend kind params else action }

/-- Without a target nothing moves. -/
def reorder (workflow : Workflow) (source : Int) (target : Option Int) :
    Except MoveFault Workflow :=
  match target with
  | none => .ok workflow
  | some target =>
    (moveItem workflow.actions source target).map fun actions => { workflow with actions }

def relabel (workflow : Workflow) (label : Text) : Workflow := { workflow with label }

end Workflow

end Pushbutton
