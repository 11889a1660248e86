import Pushbutton.Proofs.Run.Bond
import Pushbutton.Proofs.Run.Paired
import Pushbutton.Proofs.Stage.Steady

/-! What a run leaves alone: a property that dispatching each of its actions keeps, the whole run keeps. -/

set_option autoImplicit false

namespace Pushbutton

variable {σ ε : Type}

/-- Nothing that a run over these actions does breaks the property. -/
structure Performer.Keeps (performer : Performer σ ε) (actions : List Action)
    (property : σ → Prop) : Prop where
  dispatch : ∀ action ∈ actions, ∀ state, property state → property (performer.dispatch action state).2
  pause : ∀ state, property state → property (performer.pause state)
  notice : ∀ notice state, property state → property (performer.notice notice state)

def Cursor.ahead (actions : List Action) : Cursor → List Action
  | .fresh => actions
  | .paused _ _ rest => rest
  | .ended => []

theorem Cursor.left_subset {actions : List Action} {cursor : Cursor} (inside : cursor.ahead actions ⊆ actions) :
    cursor.left actions ⊆ actions := by
  cases cursor with
  | fresh | ended => exact inside
  | paused index outcome rest => exact List.Subset.trans (outcome.left_subset rest) inside

namespace Performer.Keeps

variable {performer : Performer σ ε} {actions : List Action} {property : σ → Prop}

theorem paired (keeps : performer.Keeps actions property) :
    Paired (Within actions (Only property)) performer performer := by
  apply Paired.within
  · rintro action member state _ ⟨rfl, holds⟩
    exact ⟨rfl, rfl, keeps.dispatch action member state holds⟩
  · rintro state _ ⟨rfl, holds⟩
    exact ⟨rfl, keeps.pause state holds⟩
  · rintro notice state _ ⟨rfl, holds⟩
    exact ⟨rfl, keeps.notice notice state holds⟩

theorem next (keeps : performer.Keeps actions property) (cursor : Cursor) (phase : Phase) {state : σ}
    (holds : property state) (inside : cursor.ahead actions ⊆ actions) :
    property (cursor.next performer actions phase state).state := by
  have within : Within actions (Only property) (cursor.left actions) state state :=
    ⟨Cursor.left_subset inside, rfl, holds⟩
  exact (keeps.paired.next actions cursor phase within fun _ _ => within.stop).state.2.2

theorem drain (keeps : performer.Keeps actions property) (moves : Nat) (cursor : Cursor) (phase : Phase)
    {state : σ} (holds : property state) (inside : cursor.ahead actions ⊆ actions) :
    property (cursor.drain performer actions moves phase state).2.state := by
  have within : Within actions (Only property) (cursor.left actions) state state :=
    ⟨Cursor.left_subset inside, rfl, holds⟩
  exact (keeps.paired.drain actions moves cursor phase within fun _ _ => within.stop).2.state.2.2

theorem run {workflow : Workflow} (keeps : performer.Keeps workflow.actions property) {state : σ}
    (holds : property state) : property (performer.run workflow state).2.2 :=
  (keeps.paired.run workflow ⟨List.Subset.refl _, rfl, holds⟩).2.2.2.2

end Performer.Keeps

/-! ## What stands under other keys -/

section

open Effect Stage

variable {keys : Text → Prop} {start : Stage}

theorem Action.keeps_dispatch {action : Action} (apart : ∀ key, action.Writes key → ¬ keys key)
    (shown : ¬ keys Output.textKey) (pictured : ¬ keys Output.imageKey) :
    KeepsUnless Fault.Unencodable (Steady keys start) action.dispatch := by
  apply keepsUnless_dispatch
  · exact fun framed steady => steady.of_unmoved framed.toUnmoved
  · exact fun key writes => keeps_setItem (apart key writes)
  · exact keeps_setText shown
  · exact keeps_setImageUrl pictured

/-- Whatever faults the calls of a run raise, under other keys stands what stood there, unless a fault emptied the
file. -/
theorem Stage.keeps_run {workflow : Workflow}
    (apart : ∀ action ∈ workflow.actions, ∀ key, action.Writes key → ¬ keys key)
    (shown : ¬ keys Output.textKey) (pictured : ¬ keys Output.imageKey) (delay : Seconds) :
    Keeps (Lapsing keys start) (Stage.run delay workflow) := by
  intro stage lapsing
  have keeps : (performer delay).Keeps workflow.actions (Lapsing keys start) := by
    refine ⟨fun action member => ?_, fun state lapsing => ?_, fun notice state lapsing => ?_⟩
    · apply Action.keeps_dispatch_of_unframed
      · exact fun framed lapsing => lapsing.of_unmoved framed.toUnmoved
      · exact fun key writes => lapsing_setItem (apart action member key writes)
      · exact fun text => keeps_modify_setItem (fun _ lapsing => lapsing.of_unmoved ⟨rfl, rfl, rfl⟩)
          (lapsing_setItem shown text)
      · exact fun imageUrl => keeps_modify_setItem (fun _ lapsing => lapsing.of_unmoved ⟨rfl, rfl, rfl⟩)
          (lapsing_setItem pictured imageUrl)
    · exact lapsing.of_unmoved ⟨rfl, rfl, rfl⟩
    · exact lapsing.of_unmoved ⟨rfl, rfl, rfl⟩
  exact keeps.run lapsing

end

end Pushbutton
