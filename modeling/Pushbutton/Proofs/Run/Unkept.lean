import Pushbutton.Proofs.Run.Host
import Pushbutton.Proofs.Stage.Spared

/-! What an action leaves when it fails. The fault is one of its last call, and until then nothing was changed but
what this call is to keep: a new text or image is visible before the store has it. -/

set_option autoImplicit false

namespace Pushbutton

/-- The call is one by which the store is to keep what the action shows. -/
def Action.WritesBack (action : Action) : Call → Prop
  | .setItem _ _ => action.kind ≠ .setLocalStorage
  | _ => False

def Output.showing (output : Output) : Call → Output
  | .setItem key value =>
    if key = imageKey then { output with imageUrl := value } else { output with text := value }
  | _ => output

/-- A call that fails leaves the items from before, or an empty file in which a text was to be written that it cannot
hold. -/
def Call.Leaves (before after : Store) : Call → Prop
  | .setItem key value => before.Abandoned (before.items.put key value) after
  | _ => before.Intact after

theorem Call.leaves_refl (call : Call) (store : Store) : call.Leaves store store := by
  cases call with
  | setItem key value => exact .inl (.refl store)
  | _ => exact .refl store

/-- What is left on a stage when this call was the one of an action that failed. -/
structure Action.Failed (action : Action) (start : Stage) (call : Call) (after : Stage) : Prop where
  store : call.Leaves start.store after.store
  /-- All that is visible is as it was. -/
  unchanged : ¬ action.WritesBack call → after.output = start.output
  /-- But what was shown remains, though it could not be kept. -/
  shown : action.WritesBack call → after.output = start.output.showing call

theorem Effect.Ends.keeping {α : Type} {effect : Effect α} {stage : Stage} {gives : α → Stage → Prop}
    {fails property : Stage → Prop} (ends : effect.Ends stage gives fails) (keeps : effect.Keeps property)
    (holds : property stage) :
    effect.Ends stage (fun value after => gives value after ∧ property after)
      (fun after => fails after ∧ property after) := by
  have held := keeps stage holds
  unfold Ends at ends ⊢
  rcases performed : effect.perform stage with ⟨result, after⟩
  rw [performed] at ends held
  cases result with
  | ok value => exact ⟨ends, held⟩
  | error fault => exact ⟨ends, held⟩

/-! ## Scripts and their last calls -/

namespace Script

variable {α β : Type} {stage : Stage} {gives : α → Stage → Prop} {fails : Call → Stage → Prop}

/-- On this stage the script comes to a value, or to a fault of the last call that was made. -/
def Ends (script : Script α) (stage : Stage) (gives : α → Stage → Prop) (fails : Call → Stage → Prop) : Prop :=
  match script.effect.perform stage with
  | (.ok value, after) => gives value after
  | (.error fault, after) => ∃ call, (script.calls stage).getLast? = some ⟨call, some fault⟩ ∧ fails call after

theorem ends_ask_iff {call : Call} {next : call.Reply → Script α} :
    (Script.ask call next).Ends stage gives fails ↔
      call.effect.Ends stage (fun reply after => (next reply).Ends after gives fails) (fails call) := by
  unfold Ends Effect.Ends
  rw [effect, calls, Effect.perform_bind]
  rcases call.effect.perform stage with ⟨answer, after⟩
  cases answer with
  | error fault => simp
  | ok reply =>
    dsimp only
    cases (next reply).effect.perform after with
    | mk result last =>
      cases result with
      | ok value => exact Iff.rfl
      | error fault =>
        -- a call that was answered is not the one that raised the fault
        rw [List.getLast?_cons]
        cases (Script.calls (next reply) after).getLast? <;> simp

theorem Ends.bind {script : Script α} {next : α → Script β} {middle : α → Stage → Prop} {gives : β → Stage → Prop}
    (first : script.Ends stage middle fails)
    (rest : ∀ value after, middle value after → (next value).Ends after gives fails) :
    (script >>= next).Ends stage gives fails := by
  have bound (script : Script α) : script >>= next = script.bind next := rfl
  rw [bound]
  induction script generalizing stage with
  | done value => exact rest value stage first
  | ask call later ih =>
    rw [ends_ask_iff] at first
    rw [Script.bind, ends_ask_iff]
    exact first.mono fun reply after => ih reply
  | view later ih => exact ih stage first
  | change alter later ih => exact ih first

theorem ends_call {call : Call} {gives : call.Reply → Stage → Prop}
    (ends : call.effect.Ends stage gives (fails call)) : (Script.call call).Ends stage gives fails :=
  ends_ask_iff.mpr ends

theorem ends_ite {condition : Prop} [Decidable condition] {yes no : Script α}
    (left : condition → yes.Ends stage gives fails) (right : ¬ condition → no.Ends stage gives fails) :
    (if condition then yes else no).Ends stage gives fails := by
  split
  · next holds => exact left holds
  · next fails => exact right fails

theorem ends_changeKept {alter : Stage → Stage} {key value : Text}
    (ends : (Script.call (.setItem key value)).Ends (alter stage) (fun _ _ => True) fails) :
    (changeKept alter key value).Ends stage (fun _ _ => True) fails :=
  ends_ite (fun _ => ends) fun _ => trivial

theorem ends_setStyle (property : String) {value : Script Text}
    (ends : value.Ends stage (fun _ _ => True) fails) :
    (setStyle property value).Ends stage (fun _ _ => True) fails := by
  unfold setStyle Ends
  rw [effect, calls]
  simp only [Effect.perform_bind, Effect.perform_get]
  cases stage.control with
  | none => trivial
  | some control => exact ends.bind fun _ _ _ => trivial

theorem ends_styledScript (property : String) {value : Script Text}
    (ends : value.Ends stage (fun _ _ => True) fails) :
    (Request.styledScript property value).Ends stage (fun _ _ => True) fails :=
  (ends_setStyle property ends).bind fun _ _ _ => trivial

end Script

/-! ## Calls -/

namespace Stage

open Effect

variable {start stage : Stage}

structure Still (start stage : Stage) : Prop where
  store : stage.store = start.store
  output : stage.output = start.output

theorem shares_output (output : Output) : Shares (Only fun stage => stage.output = output) :=
  shares_only fun _ _ _ _ same => same

theorem still_onHost {call : Call} (onHost : call.OnHost) : call.effect.Keeps (Still start) := by
  intro stage still
  cases refused : stage.refusal stage.calls call with
  | none =>
    rw [perform_onHost onHost refused]
    exact ⟨still.store, still.output⟩
  | some fault =>
    rw [perform_onHost_refused onHost refused]
    exact ⟨still.store, still.output⟩

theorem still_getItem (key : Text) : (getItem key).Keeps (Still start) := by
  intro stage still
  have rests := rests_getItem key stage (Rests.refl stage)
  have shown := twin_only_iff.mp ((shares_output stage.output).getItem key) stage rfl
  exact ⟨rests.store.trans still.store, shown.trans still.output⟩

end Stage

/-! ## Actions -/

namespace Action

open Effect Stage

variable (action : Action) {start stage : Stage}

theorem failed_of_still {call : Call} (still : Still start stage) (other : ¬ action.WritesBack call) :
    action.Failed start call stage := by
  refine ⟨?_, fun _ => still.output, fun writesBack => absurd writesBack other⟩
  rw [still.store]
  exact call.leaves_refl start.store

theorem ends_still {call : Call} (keeps : call.effect.Keeps (Still start)) (other : ¬ action.WritesBack call)
    (still : Still start stage) :
    (Script.call call).Ends stage (fun _ => Still start) (action.Failed start) := by
  apply Script.ends_call
  have held := keeps stage still
  unfold Ends
  rcases performed : call.effect.perform stage with ⟨result, after⟩
  rw [performed] at held
  cases result with
  | ok reply => exact held
  | error fault => exact action.failed_of_still held other

theorem ends_onHost (call : Call) (onHost : call.OnHost) (still : Still start stage) :
    (Script.call call).Ends stage (fun _ => Still start) (action.Failed start) := by
  refine action.ends_still (still_onHost onHost) ?_ still
  cases call with
  | setItem => exact onHost.elim
  | getItem | removeItem | clear | notify | prompt | reload | hasOpener | close => exact not_false

theorem ends_getItem {key : Text} (still : Still start stage) :
    (Script.call (.getItem key)).Ends stage (fun _ => Still start) (action.Failed start) :=
  action.ends_still (still_getItem key) not_false still

theorem ends_setItem {key value : Text} (store : stage.store = start.store)
    (failed : ∀ after : Stage, Call.Leaves start.store after.store (.setItem key value) → after.output = stage.output →
      action.Failed start (.setItem key value) after) :
    (Script.call (.setItem key value)).Ends stage (fun _ _ => True) (action.Failed start) := by
  have keeps := twin_only_iff.mp ((shares_output stage.output).setItem key value)
  have ends := (ends_written _ key value).keeping keeps rfl
  apply Script.ends_call
  apply (ends.mono fun _ _ _ => trivial).mono_fails
  rintro after ⟨left, output⟩
  rw [store] at left
  exact failed after left output

/-- What is shown is visible before the store is to keep it. -/
theorem ends_changeKept {alter : Stage → Stage} {key value : Text} (shows : action.kind ≠ .setLocalStorage)
    (store : (alter stage).store = start.store)
    (output : (alter stage).output = start.output.showing (.setItem key value)) :
    (Script.changeKept alter key value).Ends stage (fun _ _ => True) (action.Failed start) := by
  apply Script.ends_changeKept
  apply action.ends_setItem store
  exact fun after left same => ⟨left, fun other => absurd shows other, fun _ => same.trans output⟩

theorem ends_setText {text : Text} (shows : action.kind ≠ .setLocalStorage) (still : Still start stage) :
    (Script.setText text).Ends stage (fun _ _ => True) (action.Failed start) := by
  apply action.ends_changeKept shows still.store
  dsimp only
  rw [still.output]
  rfl

theorem ends_setImageUrl {imageUrl : Text} (shows : action.kind ≠ .setLocalStorage) (still : Still start stage) :
    (Script.setImageUrl imageUrl).Ends stage (fun _ _ => True) (action.Failed start) := by
  apply action.ends_changeKept shows still.store
  dsimp only
  rw [still.output]
  rfl

theorem ends_request (start : Stage) :
    (Request.of action.kind action.params).script.Ends start (fun _ _ => True) (action.Failed start) := by
  have still : Still start start := ⟨rfl, rfl⟩
  cases kind : action.kind with
  | alert =>
    apply (action.ends_onHost (.notify _) trivial still).bind
    exact fun _ _ _ => trivial
  | refreshPage =>
    apply (action.ends_onHost .reload trivial still).bind
    exact fun _ _ _ => trivial
  | showText =>
    apply (action.ends_setText (by simp [kind]) still).bind
    exact fun _ _ _ => trivial
  | showImage =>
    apply (action.ends_setImageUrl (by simp [kind]) still).bind
    exact fun _ _ _ => trivial
  | setLocalStorage =>
    apply Script.ends_ite
    · exact fun _ => trivial
    · intro _
      apply Script.Ends.bind (action.ends_setItem rfl fun after left same => ?_)
      · exact fun _ _ _ => trivial
      · exact ⟨left, fun _ => same, fun writesBack => absurd kind writesBack⟩
  | getLocalStorage =>
    apply Script.ends_ite
    · exact fun _ => trivial
    · intro _
      apply (action.ends_getItem still).bind
      intro value after still
      apply (action.ends_setText (by simp [kind]) still).bind
      exact fun _ _ _ => trivial
  | increaseButtonSize => exact Script.ends_styledScript _ trivial
  | closeWindow =>
    apply (action.ends_onHost .hasOpener trivial still).bind
    intro opened after still
    apply Script.ends_ite
    · intro _
      apply (action.ends_onHost .close trivial still).bind
      exact fun _ _ _ => trivial
    · intro _
      apply (action.ends_onHost (.notify _) trivial still).bind
      exact fun _ _ _ => trivial
  | promptAndShow =>
    apply (action.ends_onHost (.prompt _) trivial still).bind
    intro response after still
    apply Script.ends_ite
    · exact fun _ => trivial
    · intro _
      apply (action.ends_setText (by simp [kind]) still).bind
      exact fun _ _ _ => trivial
  | changeButtonColor =>
    apply Script.ends_styledScript
    exact Script.ends_ite (fun _ => trivial) fun _ => trivial
  | disableButton => trivial

theorem ends_script (start : Stage) : action.script.Ends start (fun _ _ => True) (action.Failed start) := by
  apply (action.ends_request start).bind
  intro outcome after _
  exact Script.ends_ite (fun _ => trivial) fun _ => trivial

/-- Whatever calls raise faults, an action that fails leaves the output as it was, unless the call that raised its fault
was to keep what it shows: then what could not be kept is visible. Either way the items are as they were, or the file
was emptied for a text that it cannot hold. -/
theorem output_of_failed {action : Action} {stage after : Stage} {fault : Fault}
    (failed : action.dispatch.perform stage = (.error fault, after)) :
    ∃ call, (action.script.calls stage).getLast? = some ⟨call, some fault⟩ ∧ action.Failed stage call after := by
  have ends := action.ends_script stage
  rw [Script.Ends, action.effect_script, failed] at ends
  exact ends

end Action

/-! ## A refused question and a refused write -/

def refusedFault : Fault := .external "OSError" "refused"

/-- A stage on which no question can be asked, and nothing written. -/
def withheldStage : Stage where
  store := .memory [(Output.textKey, "old")]
  output := { text := "old" }
  refusal _ call :=
    match call with
    | .prompt _ | .setItem _ _ => some refusedFault
    | _ => none

namespace Action

def asking : Action := { id := "a", kind := .promptAndShow }

def telling : Action := { id := "b", kind := .showText, params := { message := some "new" } }

theorem output_of_failed_asking :
    let after := (asking.dispatch.perform withheldStage).2
    asking.dispatch.perform withheldStage = (.error refusedFault, after) ∧
      after.output = withheldStage.output ∧ withheldStage.store.Intact after.store := by
  intro after
  have failed : asking.dispatch.perform withheldStage = (.error refusedFault, after) := rfl
  obtain ⟨call, last, left⟩ := output_of_failed failed
  have asked : asking.script.calls withheldStage = [⟨.prompt Request.promptFallback, some refusedFault⟩] := rfl
  rw [asked] at last
  cases last
  exact ⟨failed, left.unchanged not_false, left.store⟩

theorem telling_shows_unkept :
    let performed := telling.dispatch.perform withheldStage
    withheldStage.backed = true ∧ performed.1 = .error refusedFault ∧
      withheldStage.output = { text := "old" } ∧ performed.2.output = { text := "new" } ∧
      performed.2.store.items = [((Output.textKey : Text), ("old" : Text))] := ⟨rfl, rfl, rfl, rfl, rfl⟩

end Action

end Pushbutton
