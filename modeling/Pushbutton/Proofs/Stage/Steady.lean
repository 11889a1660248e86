import Pushbutton.Proofs.Stage.Access
import Pushbutton.Proofs.Stage.Twin

/-! What stands under some keys of the store, while effects do everything but write there. -/

set_option autoImplicit false

namespace Pushbutton

namespace Stage

/-- The stage can be used, and has under these keys what it had at the start and the same ids to give. -/
structure Steady (keys : Text → Prop) (start stage : Stage) : Prop where
  ready : stage.Ready
  held : ∀ key, keys key → stage.store.items.get? key = start.store.items.get? key
  ids : stage.ids = start.ids

/-- The stage can be used, with the same ids to give. The store was never emptied, or nothing stands under these
keys. -/
structure Lapsing (keys : Text → Prop) (start stage : Stage) : Prop where
  ready : stage.Ready
  held : (∀ key, keys key → stage.store.items.get? key = start.store.items.get? key) ∨
    ∀ key, keys key → stage.store.items.get? key = none
  ids : stage.ids = start.ids

variable {keys : Text → Prop} {start : Stage}

theorem Ready.lapsing (ready : start.Ready) : Lapsing keys start start := ⟨ready, .inl fun _ _ => rfl, rfl⟩

theorem Lapsing.of_unmoved {stage after : Stage} (lapsing : Lapsing keys start stage)
    (unmoved : Unmoved stage after) : Lapsing keys start after :=
  ⟨unmoved.ready lapsing.ready, unmoved.store ▸ lapsing.held, unmoved.ids.trans lapsing.ids⟩

theorem Ready.steady (ready : start.Ready) : Steady keys start start := ⟨ready, fun _ _ => rfl, rfl⟩

theorem Steady.of_unmoved {stage after : Stage} (steady : Steady keys start stage)
    (unmoved : Unmoved stage after) : Steady keys start after :=
  ⟨unmoved.ready steady.ready, unmoved.store ▸ steady.held, unmoved.ids.trans steady.ids⟩

section

open Effect

theorem keeps_modify_of_unmoved {change : Stage → Stage} (unmoved : ∀ stage, Unmoved stage (change stage)) :
    Keeps (Steady keys start) (modify change : Effect Unit) :=
  keeps_modify fun stage steady => steady.of_unmoved (unmoved stage)

theorem keeps_getItem (other : Text) : Keeps (Steady keys start) (getItem other) := by
  intro stage steady
  rw [steady.ready.getItem]
  exact steady.of_unmoved ⟨rfl, rfl, rfl⟩

theorem lapsing_setItem {other : Text} (apart : ¬ keys other) (value : Text) :
    Keeps (Lapsing keys start) (setItem other value) := by
  intro stage lapsing
  by_cases takes : stage.store.Takes (stage.store.items.put other value)
  · obtain ⟨changed, holds, _, written⟩ := lapsing.ready.exists_setItem takes
    have beside (key : Text) (member : keys key) : changed.items.get? key = stage.store.items.get? key := by
      have different : other ≠ key := by
        rintro rfl
        exact apart member
      rw [holds.items, Table.get?_put, if_neg different]
    rw [written]
    refine ⟨(lapsing.ready.called _).noted.holding holds, ?_, lapsing.ids⟩
    exact lapsing.held.imp (fun held key member => (beside key member).trans (held key member))
      fun held key member => (beside key member).trans (held key member)
  · obtain ⟨fault, emptied, failed⟩ := perform_setItem_unfit lapsing.ready.usable takes (lapsing.ready.permits _ _)
    rw [failed]
    refine ⟨⟨emptied.usable, lapsing.ready.permits⟩, .inr fun key _ => ?_, lapsing.ids⟩
    rw [emptied.items]
    rfl

theorem keeps_setItem {other : Text} (apart : ¬ keys other) (value : Text) :
    KeepsUnless Fault.Unencodable (Steady keys start) (setItem other value) := by
  intro stage steady avoids
  obtain ⟨changed, holds, written⟩ := steady.ready.exists_setItem_of_avoids avoids
  rw [written]
  constructor
  · exact (steady.ready.called (.setItem other value)).noted.holding holds
  · intro key member
    -- a key that stays is not the one written, and keeps its text in the new items
    have other : other ≠ key := by
      rintro rfl
      exact apart member
    rw [holds.items, Table.get?_put, if_neg other]
    exact steady.held key member
  · exact steady.ids

theorem keeps_setText (apart : ¬ keys Output.textKey) (shown : Text) :
    KeepsUnless Fault.Unencodable (Steady keys start) (setText shown) :=
  keepsUnless_modify_setItem (fun _ steady => steady.of_unmoved ⟨rfl, rfl, rfl⟩) (keeps_setItem apart shown)

theorem keeps_setImageUrl (apart : ¬ keys Output.imageKey) (imageUrl : Text) :
    KeepsUnless Fault.Unencodable (Steady keys start) (setImageUrl imageUrl) :=
  keepsUnless_modify_setItem (fun _ steady => steady.of_unmoved ⟨rfl, rfl, rfl⟩) (keeps_setItem apart imageUrl)

theorem keeps_kept_of_getItem {property : Stage → Prop} (reads : ∀ key, Keeps property (getItem key)) :
    Keeps property kept := by
  apply Keeps.bind (reads _)
  intro shown
  apply Keeps.bind (reads _)
  intro imageUrl
  exact keeps_pure _

theorem keeps_kept : Keeps (Steady keys start) kept := keeps_kept_of_getItem keeps_getItem

theorem keeps_restore : Keeps (Steady keys start) restore := by
  apply Keeps.bind keeps_kept
  intro output
  exact keeps_modify_of_unmoved fun _ => ⟨rfl, rfl, rfl⟩

end

end Stage

end Pushbutton
