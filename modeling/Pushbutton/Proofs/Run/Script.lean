import Pushbutton.Proofs.Stage.Access
import Pushbutton.Run.Dispatch

/-! What an action asks of the store and the host. Its effect is laid open as a tree over their answers, from
which the calls that it makes can be told, and what it comes to when none of them raises a fault. -/

set_option autoImplicit false

namespace Pushbutton

/-! ## Calls -/

namespace Call

@[reducible] def Reply : Call → Type
  | .getItem _ | .prompt _ => Option Text
  | .hasOpener => Bool
  | .setItem _ _ | .removeItem _ | .clear | .notify _ | .reload | .close => Unit

def effect : (call : Call) → Effect call.Reply
  | .getItem key => Stage.getItem key
  | .setItem key value => Stage.setItem key value
  | .removeItem key => Stage.removeItem key
  | .clear => Stage.clear
  | .notify message => Stage.notify message
  | .prompt message => Stage.prompt message
  | .reload => Stage.reload
  | .hasOpener => Stage.hasOpener
  | .close => Stage.close

end Call

namespace Stage

structure Untouched (before after : Stage) : Prop where
  control : after.control = before.control
  calls : after.calls = before.calls

theorem Untouched.refl (stage : Stage) : Untouched stage stage := ⟨rfl, rfl⟩

theorem Untouched.trans {before middle after : Stage} (first : Untouched before middle)
    (second : Untouched middle after) : Untouched before after :=
  ⟨second.control.trans first.control, second.calls.trans first.calls⟩

def Counts {α : Type} (effect : Effect α) : Prop :=
  ∀ stage : Stage, Untouched stage.counted (effect.perform stage).2

section

open Effect

variable {α β : Type} {start : Stage}

theorem untouched_modify {change : Stage → Stage} (untouched : ∀ stage, Untouched stage (change stage)) :
    Keeps (Untouched start) (modify change : Effect Unit) :=
  keeps_modify fun stage before => before.trans (untouched stage)

theorem untouched_record (event : Event) : Keeps (Untouched start) (record event) :=
  untouched_modify fun _ => ⟨rfl, rfl⟩

theorem untouched_note (entry : Log.Entry) : Keeps (Untouched start) (note entry) :=
  untouched_modify fun _ => ⟨rfl, rfl⟩

theorem untouched_items : Keeps (Untouched start) items := by
  apply keeps_get_bind
  intro stage untouched
  refine Keeps.bind (keeps_ofExcept _) (fun contents => ?_) stage untouched
  split
  · exact Keeps.bind (untouched_note _) fun _ => keeps_pure _
  · exact keeps_pure _

theorem untouched_replaceItems (items : Table Text Text) : Keeps (Untouched start) (replaceItems items) := by
  apply keeps_get_bind
  intro stage untouched
  cases stage.store.replace items <;> exact untouched.trans ⟨rfl, rfl⟩

theorem untouched_readLine (question : Text) : Keeps (Untouched start) (readLine question) := by
  apply Keeps.bind (untouched_record _)
  intro _
  apply keeps_get_bind
  intro stage untouched
  split
  · exact untouched
  · rw [perform_bind_of_ok (perform_set _ _), perform_ofExcept]
    exact untouched.trans ⟨rfl, rfl⟩

theorem untouched_announce (text : String) : Keeps (Untouched start) (announce text) := by
  apply keeps_get_bind
  intro stage untouched
  split
  · exact untouched
  · exact untouched_record _ stage untouched

theorem counts_permit (call : Call) : Counts (permit call) := by
  intro stage
  rw [permit, perform_bind, perform_get]
  simp only
  rw [perform_bind, perform_set]
  simp only
  split <;> exact .refl _

theorem Counts.bind {effect : Effect α} {next : α → Effect β} (counts : Counts effect)
    (rest : ∀ start value, Keeps (Untouched start) (next value)) : Counts (effect >>= next) := by
  intro stage
  have counted := counts stage
  rw [perform_bind]
  split
  · next value after performed => rw [performed] at counted; exact rest _ value after counted
  · next fault after performed => rw [performed] at counted; exact counted

theorem counts_call (call : Call) : Counts (Stage.call call) := by
  intro stage
  let after : Stage := { stage with events := stage.events ++ [.called call] }
  have recorded : Untouched stage.counted after.counted := ⟨rfl, rfl⟩
  exact recorded.trans (counts_permit call after)

end

end Stage

open Stage Effect in
theorem Call.counts (call : Call) : Counts call.effect := by
  cases call with
  | getItem key =>
    apply (counts_permit _).bind
    intro start _
    exact Keeps.bind untouched_items fun _ => keeps_pure _
  | setItem key value =>
    apply (counts_call _).bind
    intro start _
    exact Keeps.bind untouched_items fun _ => untouched_replaceItems _
  | removeItem key =>
    apply (counts_call _).bind
    intro start _
    apply Keeps.bind untouched_items
    intro items
    split
    · exact untouched_replaceItems _
    · exact keeps_pure _
  | clear => exact (counts_call _).bind fun _ _ => untouched_replaceItems _
  | notify message =>
    apply (counts_call _).bind
    intro start _
    apply keeps_get_bind
    intro stage untouched
    split
    · exact untouched.trans ⟨rfl, rfl⟩
    · refine Keeps.bind (untouched_record _) (fun _ => ?_) stage untouched
      split
      · exact Keeps.bind (untouched_readLine _) fun _ => keeps_pure ()
      · exact keeps_pure ()
  | prompt message =>
    apply (counts_call _).bind
    intro start _
    apply keeps_get_bind
    intro stage untouched
    split
    · exact untouched.trans ⟨rfl, rfl⟩
    · exact untouched_readLine _ stage untouched
  | reload =>
    apply (counts_call _).bind
    intro start _
    apply Keeps.bind
    · exact untouched_modify fun _ => ⟨rfl, rfl⟩
    · exact fun _ => untouched_announce _
  | hasOpener =>
    apply (counts_call _).bind
    intro start _
    exact keeps_get_bind fun _ untouched => untouched
  | close =>
    apply (counts_call _).bind
    intro start _
    apply Keeps.bind
    · exact untouched_modify fun _ => ⟨rfl, rfl⟩
    · exact fun _ => untouched_announce _

/-! ## Scripts -/

/-- An effect laid open: its calls, and what it does between them. -/
inductive Script (α : Type) where
  | done (value : α)
  | ask (call : Call) (next : call.Reply → Script α)
  | view (next : Stage → Script α)
  | change (alter : Stage → Stage) (next : Script α)

structure Called where
  call : Call
  fault : Option Fault
  deriving DecidableEq, Repr

def Called.raised (called : Called) : Bool := called.fault.isSome

namespace Script

variable {α β : Type}

def bind (script : Script α) (next : α → Script β) : Script β :=
  match script with
  | .done value => next value
  | .ask call rest => .ask call fun reply => (rest reply).bind next
  | .view rest => .view fun stage => (rest stage).bind next
  | .change alter rest => .change alter (rest.bind next)

instance : Monad Script where
  pure := .done
  bind := bind

def effect : Script α → Effect α
  | .done value => pure value
  | .ask call next => do (next (← call.effect)).effect
  | .view next => do (next (← get)).effect
  | .change alter next => do
    modify alter
    next.effect

/-- The calls that are made on a stage, of which only the last one can raise a fault. -/
def calls : Script α → Stage → List Called
  | .done _, _ => []
  | .ask call next, stage =>
    match call.effect.perform stage with
    | (.ok reply, after) => ⟨call, none⟩ :: (next reply).calls after
    | (.error fault, _) => [⟨call, some fault⟩]
  | .view next, stage => (next stage).calls stage
  | .change alter next, stage => next.calls (alter stage)

theorem effect_bind (script : Script α) (next : α → Script β) :
    (script >>= next).effect = script.effect >>= fun value => (next value).effect := by
  have bound (script : Script α) : script >>= next = script.bind next := rfl
  rw [bound]
  induction script with
  | done value => rw [bind, effect, pure_bind]
  | ask call rest ih => simp only [bind, effect, bind_assoc, ih]
  | view rest ih => simp only [bind, effect, bind_assoc, ih]
  | change alter rest ih => simp only [bind, effect, bind_assoc, ih]

def call (call : Call) : Script call.Reply := .ask call .done

theorem effect_call (call : Call) : (Script.call call).effect = call.effect := bind_pure _

def setResponse (response : Text) : Script Unit :=
  .change (fun stage => { stage with output := { stage.output with response } }) (.done ())

def disable : Script Unit :=
  .change (fun stage => { stage with output := { stage.output with disabled := true } }) (.done ())

def draw : Script Nat :=
  .view fun stage =>
    .change (fun stage => { stage with draws := { stage.draws with used := stage.draws.used + 1 } }) <|
      .done (stage.draws.number stage.draws.used)

def note (entry : Log.Entry) : Script Unit :=
  .change (fun stage => { stage with log := stage.log ++ [entry] }) (.done ())

def setStyle (property : String) (value : Script Text) : Script Bool :=
  .view fun stage =>
    match stage.control with
    | none => .done false
    | some _ =>
      value.bind fun value =>
        .change (fun stage => { stage with control := stage.control.map (·.setStyle property value) })
          (.done true)

theorem effect_ite {condition : Prop} [Decidable condition] (yes no : Script α) :
    (if condition then yes else no).effect = if condition then yes.effect else no.effect :=
  apply_ite effect condition yes no

def changeKept (alter : Stage → Stage) (key value : Text) : Script Unit :=
  .change alter <| .view fun stage => if stage.backed then call (.setItem key value) else .done ()

theorem effect_changeKept (alter : Stage → Stage) (key value : Text) :
    (changeKept alter key value).effect = (do
      modify alter
      if (← get).backed then Stage.setItem key value) := by
  rw [changeKept, effect]
  congr 1
  funext _
  rw [effect]
  congr 1
  funext stage
  rw [effect_ite, effect_call]
  rfl

def setText (text : Text) : Script Unit :=
  changeKept (fun stage => { stage with output := { stage.output with text } }) Output.textKey text

def setImageUrl (imageUrl : Text) : Script Unit :=
  changeKept (fun stage => { stage with output := { stage.output with imageUrl } }) Output.imageKey imageUrl

theorem effect_setText (text : Text) : (setText text).effect = Stage.setText text :=
  effect_changeKept _ _ _

theorem effect_setImageUrl (imageUrl : Text) :
    (setImageUrl imageUrl).effect = Stage.setImageUrl imageUrl :=
  effect_changeKept _ _ _

theorem effect_setStyle (property : String) (value : Script Text) :
    (setStyle property value).effect = Stage.setStyle property value.effect := by
  rw [setStyle, Stage.setStyle, effect]
  congr 1
  funext stage
  cases stage.control with
  | none => rfl
  | some control => exact effect_bind value _

end Script

namespace Request

def styledScript (property : String) (value : Script Text) : Script Outcome := do
  return if ← Script.setStyle property value then .completed else .skipped

def script : Request → Script Outcome
  | .alert message => do
    Script.call (.notify (orElse message alertFallback))
    return .completed
  | .showText message => do
    Script.setText (message.getD "")
    return .completed
  | .showImage imageUrl => do
    Script.setImageUrl (imageUrl.getD "")
    return .completed
  | .refreshPage => do
    Script.call .reload
    return .terminated
  | .setLocalStorage key value =>
    let key := key.getD ""
    if key = "" then return .skipped
    else do
      Script.call (.setItem key (value.getD ""))
      return .completed
  | .getLocalStorage key =>
    let key := key.getD ""
    if key = "" then return .skipped
    else do
      let value ← Script.call (.getItem key)
      Script.setText (key ++ ": " ++ Option.getD value absentValue)
      return .completed
  | .increaseButtonSize => styledScript "transform" (pure enlarged)
  | .closeWindow => do
    if ← Script.call .hasOpener then Script.call .close else Script.call (.notify closeByHand)
    return .completed
  | .promptAndShow message => do
    let response := Option.getD (← Script.call (.prompt (orElse message promptFallback))) ""
    if response = "" then return .completed
    else do
      Script.setText ("Response: " ++ response)
      Script.setResponse response
      return .completed
  | .changeButtonColor color =>
    let color := color.getD ""
    styledScript "backgroundColor" (if color = "" then do return colorText (← Script.draw) else pure color)
  | .disableButton => do
    Script.disable
    return .completed

theorem effect_styledScript (property : String) (value : Script Text) :
    (styledScript property value).effect = styled property value.effect := by
  rw [styledScript, styled, Script.effect_bind, Script.effect_setStyle]
  rfl

theorem effect_script (request : Request) : request.script.effect = request.perform := by
  cases request with
  | alert message =>
    rw [script, perform, Script.effect_bind, Script.effect_call]
    rfl
  | showText message =>
    rw [script, perform, Script.effect_bind, Script.effect_setText]
    rfl
  | showImage imageUrl =>
    rw [script, perform, Script.effect_bind, Script.effect_setImageUrl]
    rfl
  | refreshPage =>
    rw [script, perform, Script.effect_bind, Script.effect_call]
    rfl
  | setLocalStorage key value =>
    simp only [script, perform, Script.effect_ite]
    rw [Script.effect_bind, Script.effect_call]
    rfl
  | getLocalStorage key =>
    simp only [script, perform, Script.effect_ite]
    congr 1
    rw [Script.effect_bind, Script.effect_call]
    apply bind_congr
    intro value
    rw [Script.effect_bind, Script.effect_setText]
    rfl
  | increaseButtonSize => exact effect_styledScript _ _
  | closeWindow =>
    rw [script, perform, Script.effect_bind, Script.effect_call]
    congr 1
    funext opened
    simp only [Script.effect_ite]
    cases opened with
    | true => exact (Script.effect_bind _ _).trans (by rw [Script.effect_call]; rfl)
    | false => exact (Script.effect_bind _ _).trans (by rw [Script.effect_call]; rfl)
  | promptAndShow message =>
    rw [script, perform, Script.effect_bind, Script.effect_call]
    congr 1
    funext response
    simp only [Script.effect_ite]
    congr 1
    rw [Script.effect_bind, Script.effect_setText]
    rfl
  | changeButtonColor color =>
    simp only [script, perform, effect_styledScript, Script.effect_ite]
    rfl
  | disableButton => rfl

end Request

def Action.script (action : Action) : Script Outcome := do
  let outcome ← (Request.of action.kind action.params).script
  if outcome = .skipped then do
    Script.note { severity := .debug, logger := dispatchLogger, message := "Action skipped",
                  extra := action.logFields }
    return outcome
  else return outcome

theorem Action.effect_script (action : Action) : action.script.effect = action.dispatch := by
  rw [script, dispatch, Script.effect_bind, Request.effect_script]
  apply bind_congr
  intro outcome
  rw [Script.effect_ite, Script.effect_bind]
  rfl

/-! ## What scripts come to -/

namespace Script

variable {α β : Type} {controlled : Bool}

/-- Whatever the calls answer, the script comes to a value of this kind on a stage that has a button, or on
one that has none. Between its calls it makes no further one, and it leaves a button where it is. -/
def Ensures (controlled : Bool) (condition : α → Prop) : Script α → Prop
  | .done value => condition value
  | .ask _ next => ∀ reply, (next reply).Ensures controlled condition
  | .view next => ∀ stage : Stage, stage.control.isSome = controlled → (next stage).Ensures controlled condition
  | .change alter next =>
    (∀ stage, (alter stage).control.isSome = stage.control.isSome ∧ (alter stage).calls = stage.calls) ∧
      next.Ensures controlled condition

theorem Ensures.bind {script : Script α} {next : α → Script β} {first : α → Prop} {condition : β → Prop}
    (ensures : script.Ensures controlled first)
    (rest : ∀ value, first value → (next value).Ensures controlled condition) :
    (script >>= next).Ensures controlled condition := by
  have bound (script : Script α) : script >>= next = script.bind next := rfl
  rw [bound]
  induction script with
  | done value => exact rest value ensures
  | ask call later ih => exact fun reply => ih reply (ensures reply)
  | view later ih => exact fun stage held => ih stage (ensures stage held)
  | change alter later ih => exact ⟨ensures.1, ih ensures.2⟩

/-- What a script did on a stage: all its calls were counted; it came to its value if none of them raised a
fault, and else it was given up with such a fault. -/
structure Settled (controlled : Bool) (condition : α → Prop) (before : Stage) (calls : List Called)
    (performed : Except Fault α × Stage) : Prop where
  control : performed.2.control.isSome = controlled
  counted : performed.2.calls = before.calls + calls.length
  value : ∀ value, performed.1 = .ok value → condition value ∧ ∀ called ∈ calls, called.fault = none
  fault : ∀ fault, performed.1 = .error fault → ∃ called ∈ calls, called.fault = some fault

theorem Ensures.settled {script : Script α} {condition : α → Prop}
    (ensures : script.Ensures controlled condition) {stage : Stage}
    (held : stage.control.isSome = controlled) :
    Settled controlled condition stage (script.calls stage) (script.effect.perform stage) := by
  induction script generalizing stage with
  | done value =>
    refine ⟨held, rfl, fun _ same => ?_, nofun⟩
    cases same
    exact ⟨ensures, by simp [calls]⟩
  | ask call next ih =>
    have untouched := call.counts stage
    rw [effect, calls, Effect.perform_bind]
    rcases performed : call.effect.perform stage with ⟨answer, after⟩
    rw [performed] at untouched
    have still : after.control.isSome = controlled := (congrArg Option.isSome untouched.control).trans held
    cases answer with
    | ok reply =>
      obtain ⟨control, counted, value, fault⟩ := ih reply (ensures reply) still
      refine ⟨control, ?_, fun result same => ?_, fun raised same => ?_⟩
      · have one : after.calls = stage.calls + 1 := untouched.calls
        rw [counted, one, List.length_cons]
        omega
      · obtain ⟨right, quiet⟩ := value result same
        exact ⟨right, List.forall_mem_cons.mpr ⟨rfl, quiet⟩⟩
      · obtain ⟨called, member, raises⟩ := fault raised same
        exact ⟨called, List.mem_cons_of_mem _ member, raises⟩
    | error raised =>
      refine ⟨still, untouched.calls, nofun, fun _ same => ?_⟩
      cases same
      exact ⟨_, List.mem_singleton_self _, rfl⟩
  | view next ih => exact ih stage (ensures stage held) held
  | change alter next ih =>
    obtain ⟨control, calls⟩ := ensures.1 stage
    obtain ⟨still, counted, value, fault⟩ := ih ensures.2 (control.trans held)
    exact ⟨still, calls ▸ counted, value, fault⟩

theorem ensures_ite {condition : Prop} [Decidable condition] {yes no : Script α} {kind : α → Prop}
    (left : condition → yes.Ensures controlled kind) (right : ¬ condition → no.Ensures controlled kind) :
    (if condition then yes else no).Ensures controlled kind := by
  split
  · next holds => exact left holds
  · next fails => exact right fails

theorem ensures_call (call : Call) : (Script.call call).Ensures controlled fun _ => True := fun _ => trivial

theorem ensures_changeKept {alter : Stage → Stage}
    (apart : ∀ stage, (alter stage).control.isSome = stage.control.isSome ∧ (alter stage).calls = stage.calls)
    (key value : Text) : (changeKept alter key value).Ensures controlled fun _ => True := by
  refine ⟨apart, fun stage _ => ?_⟩
  exact ensures_ite (fun _ => ensures_call _) fun _ => trivial

theorem ensures_setText (text : Text) : (setText text).Ensures controlled fun _ => True :=
  ensures_changeKept (fun _ => ⟨rfl, rfl⟩) _ _

theorem ensures_setStyle (property : String) {value : Script Text}
    (ensures : value.Ensures controlled fun _ => True) :
    (setStyle property value).Ensures controlled (· = controlled) := by
  intro stage held
  simp only
  split
  · next none =>
    rw [← held, none]
    rfl
  · next some =>
    apply ensures.bind
    intro text _
    refine ⟨fun stage => ⟨Option.isSome_map, rfl⟩, ?_⟩
    rw [← held, some]
    rfl

end Script

def Action.outcome (controlled : Bool) (action : Action) : Outcome :=
  match action.kind with
  | .setLocalStorage | .getLocalStorage =>
    if action.params.key.getD "" = "" then .skipped else .completed
  | .increaseButtonSize | .changeButtonColor => if controlled then .completed else .skipped
  | .refreshPage => .terminated
  | .alert | .showText | .showImage | .closeWindow | .promptAndShow | .disableButton => .completed

namespace Request

open Script

variable {controlled : Bool}

theorem ensures_styledScript (property : String) {value : Script Text}
    (ensures : value.Ensures controlled fun _ => True) :
    (styledScript property value).Ensures controlled
      (· = if controlled then Outcome.completed else Outcome.skipped) := by
  apply (ensures_setStyle property ensures).bind
  rintro _ rfl
  rfl

theorem ensures_outcome (controlled : Bool) (action : Action) :
    (of action.kind action.params).script.Ensures controlled (· = action.outcome controlled) := by
  unfold Action.outcome
  cases action.kind with
  | alert | refreshPage => exact (ensures_call _).bind fun _ _ => rfl
  | showText => exact (ensures_setText _).bind fun _ _ => rfl
  | showImage => exact (ensures_changeKept (fun _ => ⟨rfl, rfl⟩) _ _).bind fun _ _ => rfl
  | setLocalStorage =>
    apply ensures_ite
    · intro absent
      exact (if_pos absent).symm
    · intro present
      exact (ensures_call _).bind fun _ _ => (if_neg present).symm
  | getLocalStorage =>
    apply ensures_ite
    · intro absent
      exact (if_pos absent).symm
    · intro present
      apply (ensures_call _).bind
      intro value _
      exact (ensures_setText _).bind fun _ _ => (if_neg present).symm
  | increaseButtonSize => exact ensures_styledScript _ trivial
  | closeWindow =>
    apply (ensures_call _).bind
    intro opened _
    apply ensures_ite
    · exact fun _ => (ensures_call _).bind fun _ _ => rfl
    · exact fun _ => (ensures_call _).bind fun _ _ => rfl
  | promptAndShow =>
    apply (ensures_call _).bind
    intro response _
    apply ensures_ite
    · exact fun _ => rfl
    · intro _
      apply (ensures_setText _).bind
      intro _ _
      exact ⟨fun _ => ⟨rfl, rfl⟩, rfl⟩
  | changeButtonColor =>
    apply ensures_styledScript
    apply ensures_ite
    · exact fun _ stage _ => ⟨fun _ => ⟨rfl, rfl⟩, trivial⟩
    · exact fun _ => trivial
  | disableButton => exact ⟨fun _ => ⟨rfl, rfl⟩, rfl⟩

end Request

namespace Action

variable {controlled : Bool}

theorem ensures_outcome (controlled : Bool) (action : Action) :
    action.script.Ensures controlled (· = action.outcome controlled) := by
  apply (Request.ensures_outcome controlled action).bind
  intro outcome same
  apply Script.ensures_ite
  · exact fun _ => ⟨fun _ => ⟨rfl, rfl⟩, same⟩
  · exact fun _ => same

/-- Dispatching an action fails with a fault of one of its calls, or else comes to the outcome that the action
has on a stage with or without a button. -/
theorem settled_dispatch (action : Action) {stage : Stage} (held : stage.control.isSome = controlled) :
    Script.Settled controlled (· = action.outcome controlled) stage (action.script.calls stage)
      (action.dispatch.perform stage) := by
  rw [← effect_script]
  exact (action.ensures_outcome controlled).settled held

end Action

end Pushbutton
