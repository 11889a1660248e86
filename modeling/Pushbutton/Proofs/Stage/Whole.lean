import Pushbutton.Proofs.Workflow.SaveLoad
import Pushbutton.Proofs.Workflow.Whole

/-! Stages on which nothing that an edit starts from has halves, so that what it comes to can be written. -/

set_option autoImplicit false

namespace Pushbutton

theorem Store.fits_recordText {store : Store} {workflow : Workflow} :
    store.Fits workflow.recordText ↔ workflow.AllTexts store.Fits := by
  cases store with
  | memory items => simp [Workflow.allTexts_iff, Action.allTexts_iff, Params.AllTexts]
  | file path tree =>
    have fits : Store.Fits (.file path tree) = Text.Whole := funext fun _ => propext Store.fits_file
    rw [fits, Workflow.whole_recordText]

namespace Stage

/-- Neither an item nor a text of the saved workflow nor an id to be given has halves. In memory they may have them. -/
structure Whole (stage : Stage) : Prop where
  items : stage.store.Takes stage.store.items
  saved : ∀ workflow, stage.store.saved Workflow.savedKey = .ok (some workflow) →
    workflow.AllTexts stage.store.Fits
  ids : ∀ id ∈ stage.ids.pending, stage.store.Fits id

variable {stage after : Stage} {workflow : Workflow}

theorem Whole.takes (whole : stage.Whole) (all : workflow.AllTexts stage.store.Fits) :
    stage.store.Takes (stage.store.items.put Workflow.savedKey workflow.recordText) :=
  whole.items.put (Store.fits_ofString _ _) (Store.fits_recordText.mpr all)

theorem Whole.saved_getD (whole : stage.Whole) {saved : Option Workflow}
    (found : stage.store.saved Workflow.savedKey = .ok saved) : (saved.getD {}).AllTexts stage.store.Fits := by
  cases saved with
  | none => exact Workflow.allTexts_empty (Store.fits_ofString _)
  | some workflow => exact whole.saved workflow found

end Stage

end Pushbutton
