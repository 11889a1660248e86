import Pushbutton.Proofs.Service.Answer
import Pushbutton.Proofs.Workflow.Edit
import Pushbutton.Proofs.Workflow.FreshId
import Pushbutton.Proofs.Workflow.Legible

/-! What an edit through the service comes to, when the store can be read and the edit succeeds: what it is
answered with, and which workflow is there afterwards. -/

set_option autoImplicit false

namespace Pushbutton.Service

/-- The store of the stage can be read, though perhaps not written; no call is refused and no empty id given. -/
structure Readable (stage : Stage) : Prop where
  legible : stage.store.Legible
  distinct : stage.store.items.Distinct
  permits : ∀ number call, stage.refusal number call = none
  named : stage.ids.Named

structure Shows (saved : Option Workflow) (stage : Stage) : Prop where
  readable : Readable stage
  saved : stage.store.saved Workflow.savedKey = .ok saved

def savedView : Option Workflow → Response
  | some workflow => shown workflow
  | none => .ofJson (workflowView false {})

section

variable {α β : Type} {stage : Stage}

theorem Readable.of_unmoved (readable : Readable stage) {after : Stage} (unmoved : Stage.Unmoved stage after) :
    Readable after :=
  ⟨unmoved.store ▸ readable.legible, unmoved.store ▸ readable.distinct, unmoved.refusal ▸ readable.permits,
    unmoved.ids ▸ readable.named⟩

theorem Readable.load (readable : Readable stage) :
    ∃ after, (Stage.load Workflow.savedKey).perform stage = (stage.store.saved Workflow.savedKey, after) ∧
      Stage.Unmoved stage after := by
  obtain ⟨contents, read⟩ := Store.exists_contents_iff.mpr readable.legible
  obtain ⟨after, loads, unmoved⟩ := Stage.perform_load (readable.permits _ (.getItem Workflow.savedKey))
  rw [read] at loads
  exact ⟨after, loads, unmoved⟩

theorem ends_load (readable : Readable stage) :
    (Stage.load Workflow.savedKey).Ends stage
      (fun saved after => stage.store.saved Workflow.savedKey = .ok saved ∧ Shows saved after)
      fun _ => True := by
  obtain ⟨after, loads, unmoved⟩ := readable.load
  unfold Effect.Ends
  rw [loads]
  cases saved : stage.store.saved Workflow.savedKey with
  | error fault => trivial
  | ok found => exact ⟨rfl, readable.of_unmoved unmoved, unmoved.store ▸ saved⟩

theorem Shows.of_unmoved {saved : Option Workflow} (shows : Shows saved stage) {after : Stage}
    (unmoved : Stage.Unmoved stage after) : Shows saved after :=
  ⟨shows.readable.of_unmoved unmoved, unmoved.store ▸ shows.saved⟩

theorem Shows.readWorkflow {saved : Option Workflow} (shows : Shows saved stage) :
    (readWorkflow.perform stage).1 = .ok (savedView saved) := by
  obtain ⟨after, loads, _⟩ := shows.readable.load
  rw [shows.saved] at loads
  rw [Service.readWorkflow, Effect.perform_bind_of_ok loads]
  cases saved <;> rfl

/-! ## Edits -/

def Arranged (response : Response) (after : Stage) : Prop :=
  ∃ workflow, response = shown workflow ∧ Shows (some workflow) after

theorem Shows.wellFormed {workflow : Workflow} (shows : Shows (some workflow) stage) : workflow.WellFormed :=
  Store.wellFormed_of_saved shows.saved

theorem Shows.wellFormed_getD {saved : Option Workflow} (shows : Shows saved stage) :
    (saved.getD {}).WellFormed := by
  cases saved with
  | none => exact Workflow.wellFormed_empty
  | some workflow => exact shows.wellFormed

def Stray (given : Move) (stage : Stage) : Prop :=
  given.target = none ∧ stage.store.saved Workflow.savedKey = .ok none

end

end Pushbutton.Service
