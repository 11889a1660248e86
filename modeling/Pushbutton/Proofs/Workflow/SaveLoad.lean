import Pushbutton.Proofs.Stage.Access
import Pushbutton.Proofs.Workflow.Record

/-! Saving and loading: under a key stands what was saved last, and whatever stands there is told by the
items of the store alone. -/

set_option autoImplicit false

namespace Pushbutton

def Store.saved (store : Store) (key : Text) : Except Fault (Option Workflow) :=
  match store.items.get? key with
  | none => .ok none
  | some text => (Workflow.ofRecordText text).map fun
    | .ok workflow => some workflow
    | .error _ => none

theorem Store.saved_of_recordText {store : Store} {key : Text} {workflow : Workflow}
    (held : store.items.get? key = some workflow.recordText) (wellFormed : workflow.WellFormed) :
    store.saved key = .ok (some workflow) := by
  rw [Store.saved, held]
  simp only [Workflow.ofRecordText_recordText wellFormed]
  rfl

theorem Store.wellFormed_of_saved {store : Store} {key : Text} {workflow : Workflow}
    (saved : store.saved key = .ok (some workflow)) : workflow.WellFormed := by
  unfold Store.saved at saved
  split at saved
  · cases saved
  · next text held =>
    cases read : Workflow.ofRecordText text with
    | error fault => rw [read] at saved; cases saved
    | ok found =>
      cases found with
      | error reason => rw [read] at saved; cases saved
      | ok other =>
        rw [read] at saved
        cases saved
        exact Workflow.wellFormed_of_ofRecordText read

/-! A workflow is saved, with a half under another key. -/

def showing : Workflow := ⟨"Go", [⟨"a", .showText, { message := some "new" }⟩]⟩

def showingText : String :=
  "\x7b\"x\": \"\\ud800\", \"Configuration\": \"\x7b\\\"buttonLabel\\\": \\\"Go\\\", " ++
    "\\\"actions\\\": [\x7b\\\"id\\\": \\\"a\\\", \\\"type\\\": \\\"showText\\\", " ++
    "\\\"config\\\": \x7b\\\"message\\\": \\\"new\\\"\x7d\x7d]\x7d\"\x7d"

namespace Store

theorem contents_showing {path : Path} {tree : FileTree}
    (content : tree.content? path = .ok (some showingText.toUTF8)) :
    Store.contents (.file path tree) = .ok ⟨[("x", loneHalf), (Workflow.savedKey, showing.recordText)], false⟩ :=
  contents_of_ofText content (by decide +kernel)

theorem saved_showing {path : Path} {tree : FileTree} (content : tree.content? path = .ok (some showingText.toUTF8)) :
    Store.saved (.file path tree) Workflow.savedKey = .ok (some showing) := by
  have wellFormed : showing.WellFormed := ⟨by decide, by decide⟩
  apply saved_of_recordText _ wellFormed
  rw [← contents_items (contents_showing content)]
  rfl

theorem unfit_showing {path : Path} {tree : FileTree} (content : tree.content? path = .ok (some showingText.toUTF8))
    {key : Text} (other : key ≠ "x") (value : Text) :
    ¬ Store.Takes (.file path tree) (Table.put (Store.items (.file path tree)) key value) := by
  have half : (Store.items (.file path tree)).get? "x" = some loneHalf := by
    rw [← contents_items (contents_showing content)]
    rfl
  exact unfit_of_get? rfl half other value

end Store

namespace Stage

/-- A text was written under a key, and nothing else that later effects go by has changed. -/
structure Wrote (key text : Text) (before after : Stage) : Prop where
  holds : after.store.Holds (before.store.items.put key text)
  place : after.store.path? = before.store.path?
  ids : after.ids = before.ids
  refusal : after.refusal = before.refusal

theorem Wrote.ready {key text : Text} {before after : Stage} (wrote : Wrote key text before after)
    (ready : before.Ready) : after.Ready :=
  ⟨wrote.holds.usable, wrote.refusal ▸ ready.permits⟩

theorem Wrote.get? {key text : Text} {before after : Stage} (wrote : Wrote key text before after)
    (other : Text) :
    after.store.items.get? other = if key = other then some text else before.store.items.get? other := by
  rw [wrote.holds.items, Table.get?_put]

theorem Wrote.takes {key text : Text} {before after : Stage} (wrote : Wrote key text before after)
    (takes : before.store.Takes (before.store.items.put key text)) : after.store.Takes after.store.items := by
  rw [wrote.holds.items]
  exact takes.of_path? wrote.place

theorem Wrote.again {key text : Text} {before after : Stage} (wrote : Wrote key text before after) :
    after.store.replace (after.store.items.put key text) = .ok after.store := by
  have held : after.store.items.get? key = some text := by rw [wrote.get?, if_pos rfl]
  rw [Table.put_get? _ key text held, wrote.holds.items]
  exact wrote.holds.again

theorem perform_load {stage : Stage} {key : Text}
    (granted : stage.refusal stage.calls (.getItem key) = none) :
    ∃ after, (Stage.load key).perform stage =
      (stage.store.contents >>= fun _ => stage.store.saved key, after) ∧ Unmoved stage after := by
  have item := perform_getItem granted
  cases contents : stage.store.contents with
  | error fault =>
    rw [contents] at item
    exact ⟨stage.counted.noted, Effect.perform_bind_of_error item _, ⟨rfl, rfl, rfl⟩⟩
  | ok found =>
    rw [contents] at item
    rw [Stage.load, Effect.perform_bind_of_ok item, Store.saved]
    cases stage.store.items.get? key with
    | none => exact ⟨_, rfl, ⟨rfl, rfl, rfl⟩⟩
    | some text =>
      simp only [Effect.perform_bind, Effect.perform_ofExcept]
      cases Workflow.ofRecordText text with
      | error fault => exact ⟨_, rfl, ⟨rfl, rfl, rfl⟩⟩
      | ok read =>
        cases read with
        | ok workflow => exact ⟨_, rfl, ⟨rfl, rfl, rfl⟩⟩
        | error reason => exact ⟨_, rfl, ⟨rfl, rfl, rfl⟩⟩

theorem Ready.load {stage : Stage} (ready : stage.Ready) (key : Text) :
    ∃ after, (Stage.load key).perform stage = (stage.store.saved key, after) ∧ Unmoved stage after := by
  obtain ⟨malformed, read⟩ := ready.usable.contents
  obtain ⟨after, loads, unmoved⟩ := perform_load (ready.permits stage.calls (.getItem key))
  rw [read] at loads
  exact ⟨after, loads, unmoved⟩

theorem Ready.save {stage : Stage} (ready : stage.Ready) {key : Text} {workflow : Workflow}
    (takes : stage.store.Takes (stage.store.items.put key workflow.recordText)) :
    ∃ after, (Stage.save key workflow).perform stage = (.ok (), after) ∧
      Wrote key workflow.recordText stage after ∧
      stage.store.replace (stage.store.items.put key workflow.recordText) = .ok after.store := by
  obtain ⟨changed, replaced, holds, place⟩ :=
    ready.usable.replace takes (ready.usable.distinct.put key workflow.recordText)
  have written := Effect.perform_bind_of_ok (ready.setItem replaced) fun _ =>
    note { severity := .debug, logger := storeLogger, message := "Workflow saved",
           extra := [("actions", .int workflow.actions.length)] }
  exact ⟨_, written, ⟨holds, place, rfl, rfl⟩, replaced⟩

/-- What was saved is loaded, whatever the store held before, if it can hold that together with the record; every other
key keeps its value. To save it once more is to write what is there. -/
theorem load_save {stage : Stage} (ready : stage.Ready) (key : Text) {workflow : Workflow}
    (wellFormed : workflow.WellFormed)
    (takes : stage.store.Takes (stage.store.items.put key workflow.recordText)) :
    ∃ saved loaded again,
      (save key workflow).perform stage = (.ok (), saved) ∧
      (load key).perform saved = (.ok (some workflow), loaded) ∧
      (∀ other ≠ key, ((getItem other).perform saved).1 = ((getItem other).perform stage).1) ∧
      (save key workflow).perform loaded = (.ok (), again) ∧
      ((getItem key).perform saved).1 = .ok (some workflow.recordText) ∧
      ((getItem key).perform again).1 = .ok (some workflow.recordText) ∧
      again.store = saved.store := by
  obtain ⟨saved, saves, wrote, _⟩ := ready.save takes
  have savedReady := wrote.ready ready
  obtain ⟨loaded, loads, unmoved⟩ := savedReady.load key
  have loadedReady := unmoved.ready savedReady
  have held : saved.store.items.get? key = some workflow.recordText := by rw [wrote.get?, if_pos rfl]
  have takesAgain : loaded.store.Takes (loaded.store.items.put key workflow.recordText) := by
    rw [unmoved.store, Table.put_get? _ _ _ held]
    exact wrote.takes takes
  obtain ⟨again, savesAgain, wroteAgain, replaced⟩ := loadedReady.save takesAgain
  -- the text is under the key already, and putting it there changes no table
  have same : again.store = saved.store := by
    rw [unmoved.store, wrote.again] at replaced
    exact (Except.ok.inj replaced).symm
  refine ⟨saved, loaded, again, saves, ?_, ?_, savesAgain, ?_, ?_, same⟩
  · rw [loads, Store.saved_of_recordText held wellFormed]
  · intro other apart
    rw [savedReady.getItem, ready.getItem, wrote.get?, if_neg (Ne.symm apart)]
  · rw [savedReady.getItem, held]
  · rw [(wroteAgain.ready loadedReady).getItem, same, held]

/-- A quote, a backslash and an empty text, which differs from an absent one. -/
def escapedWorkflow : Workflow := ⟨"\"", [⟨"1", .alert, { message := some "", value := some "\\" }⟩]⟩

theorem load_save_absent :
    ∃ saved loaded again,
      (save "a" escapedWorkflow).perform { store := .file ⟨.working, ["items"]⟩ [] } = (.ok (), saved) ∧
      (load "a").perform saved = (.ok (some escapedWorkflow), loaded) ∧
      (save "a" escapedWorkflow).perform loaded = (.ok (), again) ∧
      again.store = saved.store := by
  have opened : FileTree.Open [] ⟨.working, ["items"]⟩ ["items"] := ⟨rfl, rfl⟩
  have ready : Ready { store := .file ⟨.working, ["items"]⟩ [] } :=
    ⟨⟨⟨_, rfl⟩, .empty, _, opened.save _⟩, fun _ _ => rfl⟩
  have wellFormed : escapedWorkflow.WellFormed :=
    ⟨by decide, by decide⟩
  have takes : Store.Takes (.file ⟨.working, ["items"]⟩ []) (Table.put [] "a" escapedWorkflow.recordText) :=
    Store.takes_file.mpr (by decide +kernel)
  obtain ⟨saved, loaded, again, saves, loads, _, savesAgain, _, _, same⟩ := load_save ready "a" wellFormed takes
  exact ⟨saved, loaded, again, saves, loads, savesAgain, same⟩

/-- A half under another key: nothing is saved, and what the store held is lost. -/
theorem load_save_unless_halved :
    Ready { store := .halved } ∧ escapedWorkflow.WellFormed ∧
      ∃ problem after,
        (save "a" escapedWorkflow).perform { store := .halved } = (.error (.unencodable problem), after) ∧
        ((load "a").perform after).1 = .ok none ∧ ((getItem "x").perform after).1 = .ok none := by
  have ready : Ready { store := .halved } := ⟨Store.usable_halved, fun _ _ => rfl⟩
  have unfit : ¬ Store.Takes .halved (Store.halved.items.put "a" escapedWorkflow.recordText) :=
    Store.unfit_halved (by decide) _
  obtain ⟨problem, emptied, failed⟩ := perform_setItem_unfit ready.usable unfit (ready.permits _ _)
  have still := (ready.after_setItem "a" escapedWorkflow.recordText).1
  rw [failed] at still
  have items := emptied.items
  obtain ⟨loaded, loads, _⟩ := still.load "a"
  refine ⟨ready, ⟨by decide, by decide⟩, problem, _, Effect.perform_bind_of_error failed _, ?_, ?_⟩
  · rw [loads, Store.saved, items]
    rfl
  · rw [still.getItem, items]
    rfl

end Stage

end Pushbutton
