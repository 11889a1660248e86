import Pushbutton.Proofs.Workflow.Edit
import Pushbutton.Service.App

/-! A machine that knows nothing but one document, and the commands that requests to the service are for it. -/

set_option autoImplicit false

namespace Pushbutton.Service

inductive Command where
  | keep
  | replace (workflow : Workflow)
  | relabel (label : Text)
  | add (given : NewAction)
  | amend (id : Text) (given : Amendment)
  | remove (id : Text)
  | move (source target : Int)
  | clear
  | run (given : RunOrder)
  deriving DecidableEq, Repr

/-- The saved workflow, or none when nothing usable is saved; and the ids still to give. -/
structure Document where
  saved : Except Fault (Option Workflow)
  ids : IdSource

namespace Document

def movedWithin (source target : Int) (workflow : Workflow) : Option Workflow :=
  let count : Int := workflow.actions.length
  if 0 ≤ source ∧ source < count ∧ 0 ≤ target ∧ target < count then
    (workflow.reorder source (some target)).toOption
  else none

/-- An edit starts from the empty workflow when none is saved, and is made on none that cannot be read. -/
def edited (change : Workflow → Option Workflow) (document : Document) : Option Workflow :=
  document.saved.toOption.bind fun saved => change (saved.getD {})

def edit (change : Workflow → Option Workflow) (document : Document) : Document :=
  { document with saved := document.saved.map fun saved => (change (saved.getD {})).or saved }

def emptied (document : Document) : Document := { document with saved := .ok none }

def add (given : NewAction) (document : Document) : Document :=
  match document.saved with
  | .error _ => document
  | .ok saved =>
    let workflow := saved.getD {}
    let (appended, ids) := workflow.append given.kind document.ids
    match given.params with
    | none => ⟨.ok (some appended), ids⟩
    | some params =>
      ⟨.ok (some (appended.update (workflow.freshId document.ids).1 none (some params))), ids⟩

end Document

namespace Command

def change : Command → Workflow → Option Workflow
  | .relabel label, workflow => some (workflow.relabel label)
  | .amend id given, workflow => (workflow.find? id).map fun _ => workflow.update id given.kind given.params
  | .remove id, workflow => (workflow.find? id).map fun _ => workflow.remove id
  | .move source target, workflow => Document.movedWithin source target workflow
  | .keep, _ | .replace _, _ | .add _, _ | .clear, _ | .run _, _ => none

def next : Command → Document → Document
  | .keep, document | .run _, document => document
  | .replace workflow, document => { document with saved := .ok (some workflow) }
  | .add given, document => document.add given
  | .clear, document => document.emptied
  | command, document => document.edit command.change

def written : Command → Document → Option Workflow
  | .replace workflow, _ => some workflow
  | .add given, document => (document.add given).saved.toOption.join
  | command, document => document.edited command.change

/-- What a body says under a form; one that does not have the form asks for nothing. -/
def ofBody {α : Type} (form : Json → Checked α) (request : Request) (command : α → Command) : Command :=
  match readBody form request with
  | .ok value => command value
  | .error _ => .keep

def ofRecord (record : Json) : Command :=
  match Workflow.ofJson record with
  | .ok workflow => .replace workflow
  | .error _ => .keep

def ofMove (given : Move) : Command :=
  match given.target with
  | some target => .move given.source target
  | none => .keep

def ofRoute (request : Request) : Route → Command
  | .health | .readWorkflow | .readOutput => .keep
  | .replaceWorkflow => ofBody anyObject request ofRecord
  | .relabel => ofBody newLabel request .relabel
  | .addAction => ofBody newAction request .add
  | .amendAction id => ofBody amendment request (.amend id)
  | .removeAction id => .remove id
  | .reorder => ofBody Service.move request ofMove
  | .run => ofBody runOrder request .run
  | .clearStorage => .clear

end Command

def App.command (app : App) (request : Request) : Command :=
  match preflight? app.origins request with
  | some _ => .keep
  | none =>
    match routing request.method (pathOf request.target) with
    | .found route => .ofRoute request route
    | .otherMethod _ | .unknown => .keep

def App.serve (app : App) (requests : List Request) (stage : Stage) : Stage :=
  requests.foldl (fun stage request => (app.respond request stage).2) stage

end Pushbutton.Service
