import Pushbutton.Proofs.Stage.Effect
import Pushbutton.Proofs.Store.Contents

/-! Calls on the store of a stage, when the store can be used and no call is refused. -/

set_option autoImplicit false

namespace Pushbutton

/-- What a reading access leaves in the log: one entry when the file is no JSON text. -/
def Store.noted (store : Store) : List Log.Entry :=
  match store.contents with
  | .ok contents =>
    if contents.malformed then
      [{ severity := .warning, logger := Stage.storeLogger,
         message := "Storage file is not valid JSON; ignoring",
         extra := [("path", Json.optional (fun path => .str path.text) store.path?)] }]
    else []
  | .error _ => []

namespace Stage

structure Ready (stage : Stage) : Prop where
  usable : stage.store.Usable
  permits : ∀ number call, stage.refusal number call = none

structure Unmoved (before after : Stage) : Prop where
  store : after.store = before.store
  ids : after.ids = before.ids
  refusal : after.refusal = before.refusal

def noted (stage : Stage) : Stage := { stage with log := stage.log ++ stage.store.noted }

def counted (stage : Stage) : Stage := { stage with calls := stage.calls + 1 }

def called (stage : Stage) (call : Call) : Stage :=
  { stage with events := stage.events ++ [.called call], calls := stage.calls + 1 }

@[simp] theorem store_called (stage : Stage) (call : Call) : (stage.called call).store = stage.store := rfl

variable {stage : Stage}

theorem Ready.of_eq (ready : stage.Ready) {after : Stage} (store : after.store = stage.store)
    (refusal : after.refusal = stage.refusal) : after.Ready :=
  ⟨store ▸ ready.usable, refusal ▸ ready.permits⟩

theorem Unmoved.ready {before after : Stage} (unmoved : Unmoved before after) (ready : before.Ready) :
    after.Ready := ready.of_eq unmoved.store unmoved.refusal

theorem Ready.noted (ready : stage.Ready) : stage.noted.Ready := ready.of_eq rfl rfl

theorem Ready.counted (ready : stage.Ready) : stage.counted.Ready := ready.of_eq rfl rfl

theorem Ready.called (ready : stage.Ready) (call : Call) : (stage.called call).Ready := ready.of_eq rfl rfl

theorem Ready.holding (ready : stage.Ready) {store : Store} {items : Table Text Text}
    (holds : store.Holds items) :
    Ready { stage with store } :=
  ⟨holds.usable, ready.permits⟩

theorem perform_permit {call : Call} (granted : stage.refusal stage.calls call = none) :
    (permit call).perform stage = (.ok (), stage.counted) := by
  simp only [Stage.permit, Effect.perform_bind, Effect.perform_get, Effect.perform_set, granted]
  rfl

theorem perform_permit_refused {call : Call} {fault : Fault}
    (refused : stage.refusal stage.calls call = some fault) :
    (permit call).perform stage = (.error fault, stage.counted) := by
  simp only [Stage.permit, Effect.perform_bind, Effect.perform_get, Effect.perform_set, refused]
  rfl

theorem perform_call {call : Call} (granted : stage.refusal stage.calls call = none) :
    (Stage.call call).perform stage = (.ok (), stage.called call) := by
  let after : Stage := { stage with events := stage.events ++ [.called call] }
  have recorded : (record (.called call)).perform stage = (.ok (), after) := rfl
  have same : after.refusal after.calls call = none := granted
  rw [Stage.call, Effect.perform_bind_of_ok recorded]
  exact perform_permit same

theorem perform_call_refused {call : Call} {fault : Fault}
    (refused : stage.refusal stage.calls call = some fault) :
    (Stage.call call).perform stage = (.error fault, stage.called call) := by
  let after : Stage := { stage with events := stage.events ++ [.called call] }
  have recorded : (record (.called call)).perform stage = (.ok (), after) := rfl
  have same : after.refusal after.calls call = some fault := refused
  rw [Stage.call, Effect.perform_bind_of_ok recorded]
  exact perform_permit_refused same

theorem Ready.call (ready : stage.Ready) (call : Call) :
    (Stage.call call).perform stage = (.ok (), stage.called call) := perform_call (ready.permits _ call)

theorem perform_items :
    Stage.items.perform stage = (stage.store.contents.map Contents.items, stage.noted) := by
  simp only [Stage.items, Effect.perform_bind, Effect.perform_get, Effect.perform_ofExcept, Stage.noted,
    Store.noted]
  cases stage.store.contents with
  | error fault =>
    simp only [List.append_nil]
    rfl
  | ok contents =>
    obtain ⟨items, malformed⟩ := contents
    cases malformed with
    | true => rfl
    | false =>
      -- nothing is reported, so the log gets no entry at its end
      simp only [Bool.false_eq_true, if_false, List.append_nil]
      rfl

theorem Ready.items (ready : stage.Ready) :
    Stage.items.perform stage = (.ok stage.store.items, stage.noted) := by
  obtain ⟨malformed, read⟩ := ready.usable.contents
  rw [perform_items, read]
  rfl

theorem perform_getItem {key : Text} (granted : stage.refusal stage.calls (.getItem key) = none) :
    (getItem key).perform stage =
      (stage.store.contents.map fun _ => stage.store.items.get? key, stage.counted.noted) := by
  have read : Stage.items.perform stage.counted =
      (stage.store.contents.map Contents.items, stage.counted.noted) := perform_items
  rw [getItem, Effect.perform_bind_of_ok (perform_permit granted)]
  cases contents : stage.store.contents with
  | error fault =>
    rw [contents] at read
    rw [Effect.perform_bind_of_error read]
    rfl
  | ok found =>
    rw [contents] at read
    rw [Effect.perform_bind_of_ok read, ← Store.contents_items contents]
    rfl

theorem perform_getItem_of_usable (usable : stage.store.Usable) {key : Text}
    (granted : stage.refusal stage.calls (.getItem key) = none) :
    (Stage.getItem key).perform stage = (.ok (stage.store.items.get? key), stage.counted.noted) := by
  obtain ⟨malformed, read⟩ := usable.contents
  rw [perform_getItem granted, read]
  rfl

theorem Ready.getItem (ready : stage.Ready) (key : Text) :
    (Stage.getItem key).perform stage = (.ok (stage.store.items.get? key), stage.counted.noted) :=
  perform_getItem_of_usable ready.usable (ready.permits _ _)

theorem perform_replaceItems {items : Table Text Text} {changed : Store}
    (replaced : stage.store.replace items = .ok changed) :
    (replaceItems items).perform stage = (.ok (), { stage with store := changed }) := by
  simp only [replaceItems, Effect.perform_bind, Effect.perform_get, replaced, Effect.perform_set]

theorem perform_replaceItems_of_error {items : Table Text Text} {fault : Fault}
    (failed : stage.store.replace items = .error fault) :
    (replaceItems items).perform stage = (.error fault, { stage with store := stage.store.abandoned }) := by
  simp only [replaceItems, Effect.perform_bind, Effect.perform_get, failed, Effect.perform_set]
  rfl

/-- What is to be written is told from the items read just before. -/
theorem perform_setItem {key value : Text} {contents : Contents}
    (granted : stage.refusal stage.calls (.setItem key value) = none)
    (read : stage.store.contents = .ok contents) :
    (Stage.setItem key value).perform stage =
      (replaceItems (stage.store.items.put key value)).perform (stage.called (.setItem key value)).noted := by
  have items : Stage.items.perform (stage.called (.setItem key value)) =
      (.ok stage.store.items, (stage.called (.setItem key value)).noted) := by
    rw [perform_items, store_called, read, ← Store.contents_items read]
    rfl
  rw [Stage.setItem, Effect.perform_bind_of_ok (perform_call granted), Effect.perform_bind_of_ok items]

theorem perform_setItem_of_usable (usable : stage.store.Usable) {key value : Text} {changed : Store}
    (granted : stage.refusal stage.calls (.setItem key value) = none)
    (replaced : stage.store.replace (stage.store.items.put key value) = .ok changed) :
    (Stage.setItem key value).perform stage =
      (.ok (), { (stage.called (.setItem key value)).noted with store := changed }) := by
  obtain ⟨malformed, read⟩ := usable.contents
  rw [perform_setItem granted read]
  exact perform_replaceItems replaced

theorem Ready.setItem (ready : stage.Ready) {key value : Text} {changed : Store}
    (replaced : stage.store.replace (stage.store.items.put key value) = .ok changed) :
    (Stage.setItem key value).perform stage =
      (.ok (), { (stage.called (.setItem key value)).noted with store := changed }) :=
  perform_setItem_of_usable ready.usable (ready.permits _ _) replaced

theorem exists_setItem (usable : stage.store.Usable) {key value : Text}
    (takes : stage.store.Takes (stage.store.items.put key value))
    (granted : stage.refusal stage.calls (.setItem key value) = none) :
    ∃ changed : Store, changed.Holds (stage.store.items.put key value) ∧ changed.path? = stage.store.path? ∧
      (Stage.setItem key value).perform stage =
        (.ok (), { (stage.called (.setItem key value)).noted with store := changed }) := by
  obtain ⟨changed, replaced, holds, place⟩ := usable.replace takes (usable.distinct.put key value)
  exact ⟨changed, holds, place, perform_setItem_of_usable usable granted replaced⟩

theorem Ready.exists_setItem (ready : stage.Ready) {key value : Text}
    (takes : stage.store.Takes (stage.store.items.put key value)) :
    ∃ changed : Store, changed.Holds (stage.store.items.put key value) ∧ changed.path? = stage.store.path? ∧
      (Stage.setItem key value).perform stage =
        (.ok (), { (stage.called (.setItem key value)).noted with store := changed }) :=
  Stage.exists_setItem ready.usable takes (ready.permits _ _)

/-- Otherwise it raises a fault and loses all that it held. -/
theorem perform_setItem_unfit (usable : stage.store.Usable) {key value : Text}
    (unfit : ¬ stage.store.Takes (stage.store.items.put key value))
    (granted : stage.refusal stage.calls (.setItem key value) = none) :
    ∃ fault, stage.store.abandoned.Emptied ∧
      (Stage.setItem key value).perform stage = (.error (.unencodable fault),
        { (stage.called (.setItem key value)).noted with store := stage.store.abandoned }) := by
  obtain ⟨malformed, read⟩ := usable.contents
  obtain ⟨⟨fault, failed⟩, emptied, _⟩ := usable.replace_unfit unfit
  exact ⟨fault, emptied, (perform_setItem granted read).trans (perform_replaceItems_of_error failed)⟩

theorem Ready.after_setItem (ready : stage.Ready) (key value : Text) :
    let after := ((Stage.setItem key value).perform stage).2
    after.Ready ∧ after.ids = stage.ids := by
  by_cases takes : stage.store.Takes (stage.store.items.put key value)
  · obtain ⟨changed, holds, _, written⟩ := ready.exists_setItem takes
    simp only [written]
    exact ⟨(ready.called _).noted.holding holds, rfl⟩
  · obtain ⟨fault, emptied, failed⟩ := perform_setItem_unfit ready.usable takes (ready.permits _ _)
    simp only [failed]
    exact ⟨⟨emptied.usable, ready.permits⟩, rfl⟩

theorem Ready.clear (ready : stage.Ready) {changed : Store}
    (replaced : stage.store.replace [] = .ok changed) :
    Stage.clear.perform stage = (.ok (), { stage.called .clear with store := changed }) := by
  rw [Stage.clear, Effect.perform_bind_of_ok (ready.call _)]
  exact perform_replaceItems replaced

theorem Ready.removeItem (ready : stage.Ready) {key : Text} {changed : Store}
    (held : stage.store.items.contains key = true)
    (replaced : stage.store.replace (stage.store.items.erase key) = .ok changed) :
    (Stage.removeItem key).perform stage =
      (.ok (), { (stage.called (.removeItem key)).noted with store := changed }) := by
  rw [Stage.removeItem, Effect.perform_bind_of_ok (ready.call _),
    Effect.perform_bind_of_ok (ready.called _).items, store_called, if_pos held]
  exact perform_replaceItems replaced

theorem Ready.removeItem_absent (ready : stage.Ready) {key : Text}
    (absent : stage.store.items.contains key = false) :
    (Stage.removeItem key).perform stage = (.ok (), (stage.called (.removeItem key)).noted) := by
  rw [Stage.removeItem, Effect.perform_bind_of_ok (ready.call _),
    Effect.perform_bind_of_ok (ready.called _).items, store_called, absent]
  rfl

theorem takes_of_setItem {key value : Text} (usable : stage.store.Usable)
    (granted : stage.refusal stage.calls (.setItem key value) = none)
    (avoids : ∀ fault, ((Stage.setItem key value).perform stage).1 ≠ .error (.unencodable fault)) :
    stage.store.Takes (stage.store.items.put key value) := by
  by_contra unfit
  obtain ⟨fault, _, failed⟩ := perform_setItem_unfit usable unfit granted
  exact avoids fault (congrArg Prod.fst failed)

theorem exists_setItem_of_avoids {key value : Text} (usable : stage.store.Usable)
    (granted : stage.refusal stage.calls (.setItem key value) = none)
    (avoids : ∀ fault, ((Stage.setItem key value).perform stage).1 = .error fault → ¬ fault.Unencodable) :
    ∃ changed : Store, changed.Holds (stage.store.items.put key value) ∧
      (Stage.setItem key value).perform stage =
        (.ok (), { (stage.called (.setItem key value)).noted with store := changed }) := by
  have takes := takes_of_setItem usable granted fun problem failed => avoids _ failed ⟨problem, rfl⟩
  obtain ⟨changed, holds, _, written⟩ := exists_setItem usable takes granted
  exact ⟨changed, holds, written⟩

theorem Ready.exists_setItem_of_avoids (ready : stage.Ready) {key value : Text}
    (avoids : ∀ fault, ((Stage.setItem key value).perform stage).1 = .error fault → ¬ fault.Unencodable) :
    ∃ changed : Store, changed.Holds (stage.store.items.put key value) ∧
      (Stage.setItem key value).perform stage =
        (.ok (), { (stage.called (.setItem key value)).noted with store := changed }) :=
  Stage.exists_setItem_of_avoids ready.usable (ready.permits _ _) avoids

end Stage

end Pushbutton
