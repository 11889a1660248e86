import Pushbutton.Proofs.Service.Document
import Pushbutton.Proofs.Service.Shown

/-! Reading back: what an edit through the service is answered with is what is read right after it. Only a move
that names no target, and finds nothing saved, is answered with a workflow that is not there. -/

set_option autoImplicit false

namespace Pushbutton.Service

section

variable {α : Type} {stage : Stage}

/-! ## Views -/

def entries? : Content → Option (List Json)
  | .json view =>
    match view.member? "actions" with
    | some (.arr entries) => some entries
    | _ => none
  | _ => none

def entryId? (entry : Json) : Option Text :=
  match entry.member? "id" with
  | some (.str id) => some id
  | _ => none

/-- The body of the answer is the only entry of its id that is read. -/
def ShowsEntry (id : Text) (written read : Response) : Prop :=
  ∃ body entries, written.content = .json body ∧ entryId? body = some id ∧
    entries? read.content = some entries ∧ entries.filter (fun entry => entryId? entry = some id) = [body]

/-- What is read after an edit shows what the edit was answered with. After a removal the entries are those
from before without the removed one. -/
def ReadsBack (before written read : Response) : Route → Prop
  | .addAction => ∃ id, ShowsEntry id written read
  | .amendAction id => ShowsEntry id written read
  | .removeAction id => ∃ entries, entries? before.content = some entries ∧
    entries? read.content = some (entries.filter fun entry => entryId? entry ≠ some (id : Text))
  | _ => read.content = written.content

theorem read_of_shows {app : App} {get : Request} {saved : Option Workflow}
    (reads : routing get.method (pathOf get.target) = .found .readWorkflow) (shows : Shows saved stage) :
    (app.respond get stage).1 = withOrigin app.origins get (savedView saved) := by
  have performed := shows.readWorkflow
  rw [respond_eq_of_found reads, handle]
  generalize readWorkflow.perform stage = outcome at performed
  obtain ⟨result, after⟩ := outcome
  cases performed
  rfl

theorem Arranged.reads_back {app : App} {get : Request} {response : Response}
    (reads : routing get.method (pathOf get.target) = .found .readWorkflow)
    (arranged : Arranged response stage) : (app.respond get stage).1.content = response.content := by
  obtain ⟨workflow, rfl, shows⟩ := arranged
  rw [read_of_shows reads shows]
  rfl

/-- The request is a move that names no target, when nothing is saved. -/
def StrayMove (request : Request) (route : Route) (stage : Stage) : Prop :=
  route = .reorder ∧ ∃ given, readBody move request = .ok given ∧ Stray given stage

/-- After the answer the workflow can be read, and it is read back unless it is the answer to a stray move. -/
def Answers (app : App) (get request : Request) (route : Route) (before : Stage) (response : Response)
    (after : Stage) : Prop :=
  (∃ saved, Shows saved after) ∧
    (ReadsBack (app.respond get before).1 response (app.respond get after).1 route ↔
      ¬ StrayMove request route before)

theorem Arranged.answers {app : App} {get request : Request} {route : Route} {response : Response}
    {after : Stage} (reads : routing get.method (pathOf get.target) = .found .readWorkflow)
    (arranged : Arranged response after)
    (whole : route = .replaceWorkflow ∨ route = .relabel ∨ route = .reorder)
    (aimed : ¬ StrayMove request route stage) : Answers app get request route stage response after := by
  have back : (app.respond get after).1.content = response.content := arranged.reads_back reads
  obtain ⟨workflow, _, shows⟩ := arranged
  refine ⟨⟨_, shows⟩, fun _ => aimed, fun _ => ?_⟩
  rcases whole with rfl | rfl | rfl <;> exact back

theorem Stray.answers {app : App} {get request : Request} {given : Move} {after : Stage}
    (reads : routing get.method (pathOf get.target) = .found .readWorkflow)
    (read : readBody move request = .ok given) (stray : Stray given stage) (shows : Shows none after) :
    Answers app get request .reorder stage (shown {}) after := by
  refine ⟨⟨_, shows⟩, fun back => ?_, fun aimed => absurd ⟨rfl, given, read, stray⟩ aimed⟩
  have same : (app.respond get after).1.content = (shown {}).content := back
  rw [read_of_shows reads shows] at same
  cases same

end

def readRequest : Request := { method := "GET", target := "/api/workflow" }

end Pushbutton.Service
