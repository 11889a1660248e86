import Pushbutton.Proofs.Edit.Request
import Pushbutton.Proofs.Stage.Uniform
import Pushbutton.Proofs.Workflow.Edit
import Pushbutton.Terminal.Execution

/-! What an edit does to the saved workflow. Both channels do that and no more: each of them then says in its
own way what came of it. -/

set_option autoImplicit false

namespace Pushbutton

open Service

inductive Verdict where
  | added (id : Text) (workflow : Workflow)
  | updated (id : Text) (workflow : Workflow)
  | removed
  | arranged (workflow : Workflow)
  | cleared
  | unknown (id : String)
  | outOfRange (count : Nat)

namespace Verdict

def Present : Verdict → Prop
  | .added id workflow | .updated id workflow => (workflow.find? id).isSome
  | _ => True

/-! ## In the words of the program -/

def ending : Verdict → Terminal.Ending
  | .added _ _ | .updated _ _ | .removed | .arranged _ | .cleared => {}
  | .unknown id => Terminal.edited id none
  | .outOfRange count =>
    { status := 2, complaints := ["Index out of range (0.." ++ Text.intText ((count : Int) - 1) ++ ")"] }

def conclude (settings : Settings) (verdict : Verdict) : Effect Terminal.Ending := do
  match verdict with
  | .added id _ => Terminal.printLines [id]
  | .cleared =>
    Stage.note { severity := .warning, logger := Terminal.mainLogger, message := "Storage cleared",
                 extra := [("path", .str settings.storage.text)] }
  | _ => pure ()
  return verdict.ending

/-! ## In the words of the service -/

def response : Verdict → Response
  | .added id workflow => shownAction 201 workflow id
  | .updated id workflow => shownAction 200 workflow id
  | .removed | .cleared => .noContent
  | .arranged workflow => shown workflow
  | .unknown _ => notFound
  | .outOfRange _ => Service.outOfRange

def answer (verdict : Verdict) : Effect Response := do
  match verdict with
  | .cleared => Stage.note { severity := .warning, logger := routerLogger, message := "Storage cleared" }
  | _ => pure ()
  return verdict.response

end Verdict

namespace Edit

def Within (count : Nat) (source target : Int) : Prop :=
  0 ≤ source ∧ source < count ∧ 0 ≤ target ∧ target < count

instance (count : Nat) (source target : Int) : Decidable (Within count source target) :=
  inferInstanceAs (Decidable (_ ∧ _))

def effect : Edit → Effect Verdict
  | .add kind flags => do
    let (id, workflow) ← Stage.addAction (kind.getD .alert) (paramsOf flags)
    return .added id workflow
  | .remove id => do
    match ← Stage.editAction id fun workflow => workflow.remove id with
    | some _ => return .removed
    | none => return .unknown id
  | .update id kind flags => do
    match ← Stage.editAction id fun workflow => workflow.update id kind (paramsOf flags) with
    | some workflow => return .updated id workflow
    | none => return .unknown id
  | .move source target => do
    let workflow ← Stage.loadOrEmpty Workflow.savedKey
    if Within workflow.actions.length (position source) (position target) then
      match workflow.reorder (position source) (some (position target)) with
      | .ok workflow =>
        Stage.save Workflow.savedKey workflow
        return .arranged workflow
      | .error fault => Effect.fail (.external "IndexError" fault.message)
    else return .outOfRange workflow.actions.length
  | .label text => do
    return .arranged (← Stage.relabel text)
  | .clear => do
    Stage.clear
    return .cleared

theorem twin_effect (edit : Edit) : edit.effect.Twin Stage.Alike := by
  have shares := Stage.alike_shares
  cases edit with
  | add => exact (Stage.twin_addAction _ _).bind fun _ => Effect.twin_pure _
  | remove | update =>
    apply (shares.editAction _ _).bind
    intro found
    cases found <;> exact Effect.twin_pure _
  | move =>
    apply (shares.loadOrEmpty _).bind
    intro workflow
    split
    · split
      · exact (shares.save _ _).bind fun _ => Effect.twin_pure _
      · exact Effect.twin_ofExcept (.error _)
    · exact Effect.twin_pure _
  | label => exact (shares.relabel _).bind fun _ => Effect.twin_pure _
  | clear => exact shares.clear.bind fun _ => Effect.twin_pure _

theorem inRange_eq (count : Nat) (source target : Int) :
    Terminal.inRange count source (some target) = .ok (decide (Within count source target)) := by
  unfold Terminal.inRange Within
  by_cases inside : 0 ≤ source ∧ source < count
  · simp [inside]
  · rw [if_neg inside]
    congr 1
    exact (decide_eq_false fun all => inside ⟨all.1, all.2.1⟩).symm

variable {edit : Edit}

theorem Sayable.perform_command (sayable : edit.Sayable) (settings : Settings) :
    Terminal.perform settings edit.command = edit.effect >>= Verdict.conclude settings := by
  cases edit with
  | add =>
    simp only [command, Terminal.perform, effect, bind_assoc, pure_bind]
    rfl
  | remove id | update id =>
    simp only [command, Terminal.perform, effect, bind_assoc]
    congr 1
    funext found
    cases found <;> rfl
  | move source target =>
    obtain ⟨_, whole⟩ := sayable.positions _ _ rfl
    obtain ⟨index, found⟩ := Option.isSome_iff_exists.mp whole
    have same : index = position target := by rw [position, found]; rfl
    simp only [command, Terminal.perform, Terminal.moveAction, effect, bind_assoc, found, same]
    congr 1
    funext workflow
    rw [← position, inRange_eq]
    by_cases within : Within workflow.actions.length (position source) (position target)
    · simp only [within, decide_true, Effect.ofExcept, pure_bind, if_true]
      cases workflow.reorder (position source) (some (position target)) with
      | ok moved =>
        simp only [bind_assoc, pure_bind]
        rfl
      | error fault => rfl
    · simp only [within, decide_false, Effect.ofExcept, pure_bind, if_false]
      rfl
  | label | clear =>
    simp only [command, Terminal.perform, effect, bind_assoc, pure_bind]
    rfl

theorem Sayable.handle_request (sayable : edit.Sayable) (settings : Option Settings) {headers : Table String String}
    (typed : isJson headers = true) :
    handle settings (edit.request headers) edit.route = edit.effect >>= Verdict.answer := by
  cases edit with
  | add kind flags =>
    rw [route, handle, withBody, sayable.readBody_request typed rfl (newAction_changeMembers kind flags)]
    simp only [addAction, effect, bind_assoc, pure_bind]
    rfl
  | update id kind flags =>
    rw [route, handle, withBody, sayable.readBody_request typed rfl (amendment_changeMembers kind flags)]
    simp only [amendAction, effect, bind_assoc]
    congr 1
    funext found
    cases found <;> rfl
  | remove id =>
    simp only [route, handle, removeAction, effect, bind_assoc]
    congr 1
    funext found
    cases found <;> rfl
  | move source target =>
    have fits : Service.move
        (.obj [("source", .int (position source)), ("destination", .int (position target))]) =
          .ok ⟨position source, some (position target)⟩ := rfl
    rw [route, handle, withBody, sayable.readBody_request typed rfl fits]
    simp only [reorder, effect, bind_assoc]
    congr 1
    funext workflow
    by_cases within : Within workflow.actions.length (position source) (position target)
    · rw [if_pos within]
      rw [Within] at within
      rw [if_pos within]
      cases workflow.reorder (position source) (some (position target)) with
      | ok moved =>
        simp only [bind_assoc, pure_bind]
        rfl
      | error fault => rfl
    · rw [if_neg within]
      rw [Within] at within
      rw [if_neg within]
      rfl
  | label text =>
    have fits : newLabel (.obj [("buttonLabel", .str text)]) = .ok text := rfl
    rw [route, handle, withBody, sayable.readBody_request typed rfl fits]
    simp only [Service.relabel, effect, bind_assoc, pure_bind]
    rfl
  | clear =>
    simp only [route, handle, clearStorage, effect, bind_assoc, pure_bind]
    rfl

end Edit

/-! ## What comes of an edit -/

namespace Effect

variable {α β : Type}

def Yields (property : α → Prop) (effect : Effect α) : Prop :=
  ∀ stage value, (effect.perform stage).1 = .ok value → property value

variable {property : α → Prop}

theorem yields_pure {value : α} (holds : property value) : Yields property (pure value : Effect α) := by
  rintro stage _ ⟨⟩
  exact holds

theorem yields_fail (fault : Fault) : Yields property (fail fault) := by
  rintro stage value ⟨⟩

theorem yields_bind {property : β → Prop} {effect : Effect α} {next : α → Effect β}
    (rest : ∀ value, (next value).Yields property) : Yields property (effect >>= next) := by
  intro stage value given
  rw [perform_bind] at given
  split at given
  · next found after _ => exact rest found after value given
  · cases given

end Effect

namespace Edit

open Effect

theorem yields_effect (edit : Edit) : edit.effect.Yields Verdict.Present := by
  cases edit with
  | add kind flags =>
    simp only [effect, Stage.addAction, bind_assoc, pure_bind]
    apply yields_bind
    intro workflow
    apply yields_bind
    intro stage
    apply yields_bind
    intro _
    apply yields_bind
    intro _
    apply yields_pure
    have pushed := workflow.isSome_find?_push (workflow.freshId stage.ids).1 (kind.getD .alert)
    rw [Verdict.Present]
    cases paramsOf flags with
    | none => exact pushed
    | some params => exact Workflow.isSome_find?_update_iff.mpr pushed
  | update id kind flags =>
    simp only [effect, Stage.editAction, bind_assoc]
    apply yields_bind
    intro workflow
    cases found : workflow.find? id with
    | none => exact yields_pure trivial
    | some action =>
      simp only [bind_assoc, pure_bind]
      apply yields_bind
      intro _
      apply yields_pure
      rw [Verdict.Present, Workflow.isSome_find?_update_iff, found]
      rfl
  | remove =>
    apply yields_bind
    intro found
    cases found <;> exact yields_pure trivial
  | move =>
    apply yields_bind
    intro workflow
    split
    · split
      · exact yields_bind fun _ => yields_pure trivial
      · exact yields_fail _
    · exact yields_pure trivial
  | label | clear => exact yields_bind fun _ => yields_pure trivial

end Edit

end Pushbutton
