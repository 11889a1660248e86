import Pushbutton.Proofs.Run.Host
import Pushbutton.Proofs.Stage.Twin
import Pushbutton.Run.Live

/-! An action on two stages that are related. The kinds of actions are gone through once: from what holds of the
few things of which their effects are made, it holds of each of them. -/

set_option autoImplicit false

namespace Pushbutton

/-- Only this action writes under a key that is not for outputs. -/
def Action.Writes (action : Action) (key : Text) : Prop :=
  action.kind = .setLocalStorage ∧ action.params.key = some key

def Action.Reads (action : Action) (key : Text) : Prop :=
  action.kind = .getLocalStorage ∧ action.params.key = some key

def Request.OnHost : Request → Prop
  | .alert _ | .refreshPage | .closeWindow | .promptAndShow _ => True
  | .showText _ | .showImage _ | .setLocalStorage _ _ | .getLocalStorage _ | .increaseButtonSize
  | .changeButtonColor _ | .disableButton => False

/-- A change in which neither the store nor the host has a part. -/
inductive Stage.Quiet : (Stage → Stage) → Prop where
  | noted (entry : Log.Entry) : Quiet fun stage => { stage with log := stage.log ++ [entry] }
  | slept (delay : Seconds) : Quiet fun stage => { stage with events := stage.events ++ [.slept delay] }
  | drawn : Quiet fun stage => { stage with draws := { stage.draws with used := stage.draws.used + 1 } }
  | answered (response : Text) : Quiet fun stage => { stage with output := { stage.output with response } }
  | disabled : Quiet fun stage => { stage with output := { stage.output with disabled := true } }
  | styled (property : String) (value : Text) :
      Quiet fun stage => { stage with control := stage.control.map (·.setStyle property value) }

/-- Related stages are alike in what actions go by, as long as these read and write under such keys and end with none
of the faults. -/
structure Bond (lost : Fault → Prop) (reads writes : Text → Prop) (related : Stage → Stage → Prop) : Prop where
  control : ∀ {first second}, related first second → first.control = second.control
  draws : ∀ {first second}, related first second → first.draws = second.draws
  quiet : ∀ {change}, Stage.Quiet change → ∀ first second, related first second →
    related (change first) (change second)
  getItem : ∀ {key}, reads key → (Stage.getItem key).TwinUnless lost related
  setItem : ∀ {key}, writes key → ∀ value, (Stage.setItem key value).TwinUnless lost related
  setText : ∀ text, (Stage.setText text).TwinUnless lost related
  setImageUrl : ∀ imageUrl, (Stage.setImageUrl imageUrl).TwinUnless lost related

namespace Bond

open Effect

variable {lost : Fault → Prop} {reads writes : Text → Prop} {related : Stage → Stage → Prop}

theorem modify (bond : Bond lost reads writes related) {change : Stage → Stage} (quiet : Stage.Quiet change) :
    TwinUnless lost related (modify change : Effect Unit) := (twin_modify (bond.quiet quiet)).unless lost

theorem draw (bond : Bond lost reads writes related) : Stage.draw.TwinUnless lost related := by
  apply twinUnless_get_bind
  intro first second held _ _
  have number := congrArg (fun draws => draws.number draws.used) (bond.draws held)
  exact ⟨congrArg Except.ok number, bond.quiet .drawn first second held⟩

theorem styled (bond : Bond lost reads writes related) (property : String) {value : Effect Text}
    (twin : value.TwinUnless lost related) : (Request.styled property value).TwinUnless lost related := by
  refine TwinUnless.bind ?_ fun _ => twinUnless_pure _
  apply twinUnless_get_bind
  intro first second held
  rw [bond.control held]
  cases second.control with
  | none => exact fun _ _ => ⟨rfl, held⟩
  | some control =>
    refine TwinUnless.bind twin (fun shown => ?_) first second held
    exact (bond.modify (.styled property shown)).bind fun _ => twinUnless_pure true

theorem perform (bond : Bond lost reads writes related) {request : Request}
    (read : ∀ key, request = .getLocalStorage (some key) → reads key)
    (written : ∀ key value, request = .setLocalStorage (some key) value → writes key)
    (onHost : request.OnHost → request.perform.TwinUnless lost related) : request.perform.TwinUnless lost related := by
  cases request with
  | alert | refreshPage | closeWindow | promptAndShow => exact onHost trivial
  | showText message => exact (bond.setText _).bind fun _ => twinUnless_pure _
  | showImage imageUrl => exact (bond.setImageUrl _).bind fun _ => twinUnless_pure _
  | setLocalStorage given value =>
    cases given with
    | none => exact twinUnless_pure _
    | some key =>
      apply TwinUnless.ite
      · exact fun _ => twinUnless_pure _
      · exact fun _ => (bond.setItem (written key value rfl) _).bind fun _ => twinUnless_pure _
  | getLocalStorage given =>
    cases given with
    | none => exact twinUnless_pure _
    | some key =>
      apply TwinUnless.ite
      · exact fun _ => twinUnless_pure _
      · intro _
        apply (bond.getItem (read key rfl)).bind
        exact fun found => (bond.setText _).bind fun _ => twinUnless_pure _
  | increaseButtonSize => exact bond.styled _ (twinUnless_pure _)
  | changeButtonColor color =>
    apply bond.styled
    apply TwinUnless.ite
    · exact fun _ => bond.draw.bind fun _ => twinUnless_pure _
    · exact fun _ => twinUnless_pure _
  | disableButton => exact (bond.modify .disabled).bind fun _ => twinUnless_pure _

theorem onHost (bond : Bond lost reads writes related) {request : Request}
    (calls : ∀ call : Call, call.OnHost → (call = .reload → request = .refreshPage) →
      call.effect.TwinUnless lost related)
    (asks : request.OnHost) : request.perform.TwinUnless lost related := by
  cases request with
  | alert message => exact (calls (.notify _) trivial nofun).bind fun _ => twinUnless_pure _
  | refreshPage => exact (calls .reload trivial fun _ => rfl).bind fun _ => twinUnless_pure _
  | closeWindow =>
    apply (calls .hasOpener trivial nofun).bind
    intro opened
    cases opened with
    | true => exact (calls .close trivial nofun).bind fun _ => twinUnless_pure _
    | false => exact (calls (.notify _) trivial nofun).bind fun _ => twinUnless_pure _
  | promptAndShow message =>
    apply (calls (.prompt _) trivial nofun).bind
    intro response
    apply TwinUnless.ite
    · exact fun _ => twinUnless_pure _
    · intro _
      apply (bond.setText _).bind
      exact fun _ => (bond.modify (.answered _)).bind fun _ => twinUnless_pure _
  | showText | showImage | setLocalStorage | getLocalStorage | increaseButtonSize | changeButtonColor
  | disableButton => exact asks.elim

theorem reported (bond : Bond lost reads writes related) {before : Stage → Stage → Prop} {action : Action}
    (leads : (Request.of action.kind action.params).perform.LeadsUnless lost before related) :
    action.dispatch.LeadsUnless lost before related := by
  apply leads.bind
  intro outcome
  apply TwinUnless.ite
  · exact fun _ => (bond.modify (.noted _)).bind fun _ => twinUnless_pure _
  · exact fun _ => twinUnless_pure _

theorem dispatch (bond : Bond lost reads writes related) {action : Action}
    (read : ∀ key, action.Reads key → reads key) (written : ∀ key, action.Writes key → writes key)
    (onHost : (Request.of action.kind action.params).OnHost →
      (Request.of action.kind action.params).perform.TwinUnless lost related) :
    action.dispatch.TwinUnless lost related := by
  refine bond.reported (bond.perform (fun key same => ?_) (fun key value same => ?_) onHost)
  · -- no other kind of action asks for a text to be read
    cases kind : action.kind with
    | getLocalStorage =>
      rw [kind, Request.of] at same
      exact read key ⟨kind, Request.getLocalStorage.inj same⟩
    | _ => rw [kind] at same; cases same
  · cases kind : action.kind with
    | setLocalStorage =>
      rw [kind, Request.of] at same
      exact written key ⟨kind, (Request.setLocalStorage.inj same).1⟩
    | _ => rw [kind] at same; cases same

end Bond

/-! ## One stage -/

namespace Stage

/-- What is to be kept is as it was, and so is what later effects on the store go by. -/
structure Framed (before after : Stage) : Prop extends Unmoved before after where
  text : after.output.text = before.output.text
  imageUrl : after.output.imageUrl = before.output.imageUrl
  backed : after.backed = before.backed

theorem framed_counted (stage : Stage) : Framed stage stage.counted := ⟨⟨rfl, rfl, rfl⟩, rfl, rfl, rfl⟩

theorem framed_noted (stage : Stage) : Framed stage stage.noted := ⟨⟨rfl, rfl, rfl⟩, rfl, rfl, rfl⟩

theorem framed_called (stage : Stage) (call : Call) : Framed stage (stage.called call) :=
  ⟨⟨rfl, rfl, rfl⟩, rfl, rfl, rfl⟩

theorem framed_hosted (stage : Stage) (call : Call) : Framed stage (stage.hosted call) :=
  ⟨⟨rfl, rfl, rfl⟩, rfl, rfl, rfl⟩

theorem Quiet.framed {change : Stage → Stage} (quiet : Quiet change) (stage : Stage) :
    Framed stage (change stage) := by
  cases quiet <;> exact ⟨⟨rfl, rfl, rfl⟩, rfl, rfl, rfl⟩

/-- Reading and the host take no part in a property that goes by no more than this. -/
def Unframed (property : Stage → Prop) : Prop :=
  ∀ {before after : Stage}, Framed before after → property before → property after

section

open Effect

variable {property : Stage → Prop}

theorem Unframed.getItem (unframed : Unframed property) (key : Text) : (getItem key).Keeps property := by
  apply Keeps.bind
  · intro stage holds
    have counted := unframed stage.framed_counted holds
    cases refused : stage.refusal stage.calls (.getItem key) with
    | none =>
      rw [perform_permit refused]
      exact counted
    | some fault =>
      rw [perform_permit_refused refused]
      exact counted
  · intro _
    refine Keeps.bind (fun stage holds => ?_) fun _ => keeps_pure _
    rw [perform_items]
    exact unframed stage.framed_noted holds

theorem Unframed.onHost (unframed : Unframed property) {call : Call} (onHost : call.OnHost) :
    call.effect.Keeps property := by
  intro stage holds
  cases refused : stage.refusal stage.calls call with
  | none =>
    rw [perform_onHost onHost refused]
    exact unframed (stage.framed_hosted call) holds
  | some fault =>
    rw [perform_onHost_refused onHost refused]
    exact unframed (stage.framed_called call) holds

end

end Stage

section

open Effect Stage

variable {lost : Fault → Prop} {property : Stage → Prop} {action : Action}

theorem Action.keepsUnless_dispatch (unframed : Unframed property)
    (setItem : ∀ key, action.Writes key → ∀ value, (setItem key value).KeepsUnless lost property)
    (setText : ∀ text, (setText text).KeepsUnless lost property)
    (setImageUrl : ∀ imageUrl, (setImageUrl imageUrl).KeepsUnless lost property) :
    action.dispatch.KeepsUnless lost property := by
  have bond : Bond lost (fun _ => True) action.Writes (Only property) := by
    constructor
    · rintro first _ ⟨rfl, holds⟩
      rfl
    · rintro first _ ⟨rfl, holds⟩
      rfl
    · rintro change quiet first _ ⟨rfl, holds⟩
      exact ⟨rfl, unframed (quiet.framed first) holds⟩
    · exact fun _ => twinUnless_only_iff.mpr ((unframed.getItem _).unless lost)
    · exact fun writes value => twinUnless_only_iff.mpr (setItem _ writes value)
    · exact fun text => twinUnless_only_iff.mpr (setText text)
    · exact fun imageUrl => twinUnless_only_iff.mpr (setImageUrl imageUrl)
  refine twinUnless_only_iff.mp (bond.dispatch (fun _ _ => trivial) (fun _ writes => writes) ?_)
  exact bond.onHost fun _ onHost _ => twinUnless_only_iff.mpr ((unframed.onHost onHost).unless lost)

theorem Action.keeps_dispatch_of_unframed (unframed : Unframed property)
    (setItem : ∀ key, action.Writes key → ∀ value, (setItem key value).Keeps property)
    (setText : ∀ text, (setText text).Keeps property)
    (setImageUrl : ∀ imageUrl, (setImageUrl imageUrl).Keeps property) : action.dispatch.Keeps property :=
  keeps_iff.mpr (keepsUnless_dispatch unframed (fun key writes value => (setItem key writes value).unless _)
    (fun text => (setText text).unless _) fun imageUrl => (setImageUrl imageUrl).unless _)

end

end Pushbutton
