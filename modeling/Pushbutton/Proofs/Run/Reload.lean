import Pushbutton.Proofs.Run.Footprint

/-! Starting again in the middle of a run. The text and the image that a run has made visible are those that its
store keeps, so an output that is restored from the store shows them again. -/

set_option autoImplicit false

namespace Pushbutton

def Store.output (store : Store) : Output where
  text := (store.items.get? Output.textKey).getD ""
  imageUrl := (store.items.get? Output.imageKey).getD ""

namespace Stage

/-- The store can be used and refuses no call, whatever becomes of calls on the host. -/
structure Reliable (stage : Stage) : Prop where
  usable : stage.store.Usable
  permits : ∀ number call, ¬ call.OnHost → stage.refusal number call = none

/-- What is visible is what the store keeps, and changes of it will be written there. -/
structure Mirrored (stage : Stage) : Prop where
  reliable : stage.Reliable
  backed : stage.backed = true
  text : stage.output.text = stage.store.output.text
  imageUrl : stage.output.imageUrl = stage.store.output.imageUrl

variable {stage : Stage}

theorem Reliable.of_eq (reliable : stage.Reliable) {after : Stage} (store : after.store = stage.store)
    (refusal : after.refusal = stage.refusal) : after.Reliable :=
  ⟨store ▸ reliable.usable, refusal ▸ reliable.permits⟩

theorem Reliable.getItem (reliable : stage.Reliable) (key : Text) :
    (Stage.getItem key).perform stage = (.ok (stage.store.items.get? key), stage.counted.noted) :=
  perform_getItem_of_usable reliable.usable (reliable.permits _ _ id)

theorem Reliable.restore (reliable : stage.Reliable) :
    Stage.restore.perform stage =
      (.ok (), { stage.counted.noted.counted.noted with output := stage.store.output, backed := true }) := by
  have reread : stage.counted.noted.Reliable := reliable.of_eq rfl rfl
  have read : kept.perform stage = (.ok stage.store.output, stage.counted.noted.counted.noted) := by
    rw [kept, Effect.perform_bind_of_ok (reliable.getItem _), Effect.perform_bind_of_ok (reread.getItem _)]
    rfl
  exact Effect.perform_bind_of_ok read _

theorem Mirrored.restored (reliable : stage.Reliable) :
    Mirrored { stage.counted.noted.counted.noted with output := stage.store.output, backed := true } :=
  ⟨reliable.of_eq rfl rfl, rfl, rfl, rfl⟩

/-! ## What actions do -/

theorem mirrored_unframed : Unframed Mirrored := by
  intro before after framed mirrored
  refine ⟨mirrored.reliable.of_eq framed.store framed.refusal, framed.backed.trans mirrored.backed, ?_, ?_⟩
  · rw [framed.text, framed.store, mirrored.text]
  · rw [framed.imageUrl, framed.store, mirrored.imageUrl]

theorem Mirrored.written (reliable : stage.Reliable) (backed : stage.backed = true) {key value : Text}
    (avoids : Effect.Avoids Fault.Unencodable ((Stage.setItem key value).perform stage).1)
    (text : stage.output.text = if key = Output.textKey then value else stage.store.output.text)
    (imageUrl : stage.output.imageUrl = if key = Output.imageKey then value else stage.store.output.imageUrl) :
    Mirrored ((Stage.setItem key value).perform stage).2 := by
  obtain ⟨changed, holds, written⟩ := exists_setItem_of_avoids reliable.usable (reliable.permits _ _ id) avoids
  rw [written]
  refine ⟨⟨holds.usable, reliable.permits⟩, backed, text.trans ?_, imageUrl.trans ?_⟩
  · simp only [Store.output, holds.items, Table.get?_put]
    split <;> rfl
  · simp only [Store.output, holds.items, Table.get?_put]
    split <;> rfl

open Effect

theorem mirrored_setItem {key : Text} (apart : key ≠ Output.textKey ∧ key ≠ Output.imageKey) (value : Text) :
    (Stage.setItem key value).KeepsUnless Fault.Unencodable Mirrored := by
  intro stage mirrored avoids
  apply Mirrored.written mirrored.reliable mirrored.backed avoids
  · rw [if_neg apart.1, mirrored.text]
  · rw [if_neg apart.2, mirrored.imageUrl]

theorem mirrored_modify_setItem {change : Stage → Stage} {key value : Text}
    (unmoved : ∀ stage, Unmoved stage (change stage)) (backed : ∀ stage, (change stage).backed = stage.backed)
    (text : ∀ stage, stage.Mirrored →
      (change stage).output.text = if key = Output.textKey then value else stage.store.output.text)
    (imageUrl : ∀ stage, stage.Mirrored →
      (change stage).output.imageUrl = if key = Output.imageKey then value else stage.store.output.imageUrl) :
    KeepsUnless Fault.Unencodable Mirrored (do
      modify change
      if (← get).backed then Stage.setItem key value) := by
  intro stage mirrored avoids
  have changed : (modify change : Effect Unit).perform stage = (.ok (), change stage) := rfl
  have stays : (change stage).backed = true := (backed stage).trans mirrored.backed
  have same := (unmoved stage).store
  rw [perform_bind_of_ok changed, perform_bind, perform_get] at avoids ⊢
  dsimp only at avoids ⊢
  rw [if_pos stays] at avoids ⊢
  apply Mirrored.written (mirrored.reliable.of_eq same (unmoved stage).refusal) stays avoids
  · rw [text stage mirrored, same]
  · rw [imageUrl stage mirrored, same]

theorem mirrored_setText (text : Text) : (setText text).KeepsUnless Fault.Unencodable Mirrored := by
  apply mirrored_modify_setItem
  · exact fun _ => ⟨rfl, rfl, rfl⟩
  · exact fun _ => rfl
  · exact fun _ _ => rfl
  · exact fun _ mirrored => mirrored.imageUrl

theorem mirrored_setImageUrl (imageUrl : Text) : (setImageUrl imageUrl).KeepsUnless Fault.Unencodable Mirrored := by
  apply mirrored_modify_setItem
  · exact fun _ => ⟨rfl, rfl, rfl⟩
  · exact fun _ => rfl
  · exact fun _ mirrored => mirrored.text
  · exact fun _ _ => rfl

theorem mirrored_dispatch {action : Action}
    (apart : ¬ action.Writes Output.textKey ∧ ¬ action.Writes Output.imageKey) :
    action.dispatch.KeepsUnless Fault.Unencodable Mirrored := by
  apply Action.keepsUnless_dispatch mirrored_unframed
  · intro key writes
    apply mirrored_setItem
    constructor <;> rintro rfl
    · exact apart.1 writes
    · exact apart.2 writes
  · exact mirrored_setText
  · exact mirrored_setImageUrl

theorem keeps_mirrored {actions : List Action}
    (apart : ∀ action ∈ actions, ¬ action.Writes Output.textKey ∧ ¬ action.Writes Output.imageKey) (delay : Seconds) :
    (observing.performer delay).Keeps actions fun state => (∀ attempt ∈ state.2, attempt.Spares) → Mirrored state.1 :=
  observing_keeps mirrored_unframed (fun action member => mirrored_dispatch (apart action member)) delay

/-- An output that is restored now shows the same text and the same image, and nothing else. -/
def Restores (stage : Stage) : Prop :=
  ∃ again, restore.perform stage = (.ok (), again) ∧
    again.output =
      { text := stage.output.text, imageUrl := stage.output.imageUrl, response := "", disabled := false }

theorem Mirrored.restores (mirrored : stage.Mirrored) : stage.Restores := by
  refine ⟨_, mirrored.reliable.restore, ?_⟩
  rw [mirrored.text, mirrored.imageUrl]
  rfl

/-- A reload restores what was visible. After any number of steps of a run over an output that was restored from
the store, and after the whole run, the output that is restored once more has the text and the image of the run's
own; the last answer to a question is gone, and the button is not disabled. This is so while no action stores a
text under the keys of the output and none empties the file of the store; calls on the host may raise faults. -/
theorem restores_of_restored (reliable : stage.Reliable) {workflow : Workflow}
    (apart : ∀ action ∈ workflow.actions, ¬ action.Writes Output.textKey ∧ ¬ action.Writes Output.imageKey)
    (delay : Seconds) :
    ∃ restored, restore.perform stage = (.ok (), restored) ∧
      (∀ moves,
        let drained := Cursor.drain (observing.performer delay) workflow.actions moves .fresh .idle (restored, [])
        Cursor.drain (performer delay) workflow.actions moves .fresh .idle restored =
            (drained.1, drained.2.map Prod.fst) ∧
          ((∀ attempt ∈ drained.2.state.2, attempt.Spares) → Restores drained.2.state.1)) ∧
      let ran := (observing.performer delay).run workflow (restored, [])
      (Stage.run delay workflow).perform restored = (.ok ran.1, ran.2.2.1) ∧
        ((∀ attempt ∈ ran.2.2.2, attempt.Spares) → Restores ran.2.2.1) := by
  have keeps := keeps_mirrored apart delay
  have mirrored := Mirrored.restored reliable
  refine ⟨_, reliable.restore, fun moves => ⟨?_, fun spares => ?_⟩, perform_run .., fun spares => ?_⟩
  · exact ((observing_over delay).drain workflow.actions moves .fresh .idle (_, [])).symm
  · exact (keeps.drain moves .fresh .idle (fun _ => mirrored) (List.Subset.refl _) spares).restores
  · exact (keeps.run (fun _ => mirrored) spares).restores

/-- An answer that is shown, a notice that the host refuses, and a text that is read back. -/
def answering : Workflow where
  actions := [{ id := "a", kind := .promptAndShow }, { id := "b", kind := .alert },
    { id := "c", kind := .getLocalStorage, params := { key := some Output.textKey } }]

theorem restores_of_restored_answering :
    let refuses (_ : Nat) (call : Call) : Option Fault :=
      if call = .notify "Alert!" then some (.external "OSError" "") else none
    let stage : Stage :=
      { store := .file ⟨.working, ["items"]⟩ [], host := .page [some "a"] false, refusal := refuses }
    stage.Reliable ∧
    (∀ action ∈ answering.actions, ¬ action.Writes Output.textKey ∧ ¬ action.Writes Output.imageKey) ∧
    ∃ restored, restore.perform stage = (.ok (), restored) ∧
      Restores (Cursor.drain (performer (.whole 0)) answering.actions 2 .fresh .idle restored).2.state := by
  intro refuses stage
  have opened : FileTree.Open [] ⟨.working, ["items"]⟩ ["items"] := ⟨rfl, rfl⟩
  have reliable : stage.Reliable := by
    refine ⟨⟨⟨_, rfl⟩, .empty, _, opened.save _⟩, fun number call store => if_neg ?_⟩
    rintro rfl
    exact store trivial
  have apart : ∀ action ∈ answering.actions,
      ¬ action.Writes Output.textKey ∧ ¬ action.Writes Output.imageKey := by
    simp [answering, Action.Writes]
  obtain ⟨restored, restores, steps, _⟩ := restores_of_restored reliable apart (.whole 0)
  obtain ⟨drained, shown⟩ := steps 2
  refine ⟨reliable, apart, restored, restores, ?_⟩
  rw [drained]
  apply shown
  cases restores
  decide +kernel

end Stage

end Pushbutton
