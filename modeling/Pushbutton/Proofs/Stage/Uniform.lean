import Pushbutton.Proofs.Stage.Access
import Pushbutton.Proofs.Stage.Twin
import Pushbutton.Workflow.Saved

/-! Calls on one store from two stages. Wherever the same calls are refused, they come to the same, and so do the
edits of the saved workflow that are made of them. -/

set_option autoImplicit false

namespace Pushbutton

def Call.OnHost : Call → Prop
  | .notify _ | .prompt _ | .reload | .hasOpener | .close => True
  | .getItem _ | .setItem _ _ | .removeItem _ | .clear => False

namespace Stage

open Effect

/-- Related stages have the same store, on which the same calls are refused, and they remain related when it is
used on both. -/
structure Shares (related : Stage → Stage → Prop) : Prop where
  store : ∀ {first second}, related first second → first.store = second.store
  refused : ∀ {first second}, related first second → ∀ call,
    first.refusal first.calls call = second.refusal second.calls call
  counted : ∀ {first second}, related first second → related first.counted second.counted
  called : ∀ {first second call}, ¬ call.OnHost → related first second →
    related (first.called call) (second.called call)
  logged : ∀ {first second} entries, related first second →
    related { first with log := first.log ++ entries } { second with log := second.log ++ entries }
  stored : ∀ {first second} store, related first second → related { first with store } { second with store }

theorem shares_only {property : Stage → Prop}
    (aside : ∀ {stage : Stage} store events log calls, property stage →
      property { stage with store, events, log, calls }) : Shares (Only property) where
  store := by
    rintro first _ ⟨rfl, _⟩
    rfl
  refused := by
    rintro first _ ⟨rfl, _⟩ _
    rfl
  counted := by
    rintro first _ ⟨rfl, holds⟩
    exact ⟨rfl, aside _ _ _ _ holds⟩
  called := by
    rintro first _ call _ ⟨rfl, holds⟩
    exact ⟨rfl, aside _ _ _ _ holds⟩
  logged := by
    rintro first _ entries ⟨rfl, holds⟩
    exact ⟨rfl, aside _ _ _ _ holds⟩
  stored := by
    rintro first _ store ⟨rfl, holds⟩
    exact ⟨rfl, aside _ _ _ _ holds⟩

section

variable {related : Stage → Stage → Prop}

theorem twin_load {key : Text} (getItem : (getItem key).Twin related)
    (note : ∀ entry, (note entry).Twin related) : (load key).Twin related := by
  apply getItem.bind
  intro held
  cases held with
  | none => exact twin_pure none
  | some text =>
    apply (twin_ofExcept _).bind
    intro read
    cases read with
    | ok workflow => exact twin_pure (some workflow)
    | error reason => exact (note _).bind fun _ => twin_pure none

namespace Shares

theorem note (shares : Shares related) (entry : Log.Entry) : (note entry).Twin related :=
  twin_modify fun _ _ => shares.logged [entry]

theorem permit (shares : Shares related) (call : Call) : (permit call).Twin related := by
  intro first second held
  cases refused : second.refusal second.calls call with
  | none =>
    rw [perform_permit ((shares.refused held call).trans refused), perform_permit refused]
    exact ⟨rfl, shares.counted held⟩
  | some fault =>
    rw [perform_permit_refused ((shares.refused held call).trans refused), perform_permit_refused refused]
    exact ⟨rfl, shares.counted held⟩

theorem call (shares : Shares related) (call : Call) (onStore : ¬ call.OnHost) :
    (Stage.call call).Twin related := by
  intro first second held
  cases refused : second.refusal second.calls call with
  | none =>
    rw [perform_call ((shares.refused held call).trans refused), perform_call refused]
    exact ⟨rfl, shares.called onStore held⟩
  | some fault =>
    rw [perform_call_refused ((shares.refused held call).trans refused), perform_call_refused refused]
    exact ⟨rfl, shares.called onStore held⟩

theorem items (shares : Shares related) : items.Twin related := by
  intro first second held
  have same : first.noted = { first with log := first.log ++ second.store.noted } := by
    rw [← shares.store held]
    rfl
  rw [perform_items, perform_items, same]
  exact ⟨congrArg (fun store : Store => store.contents.map Contents.items) (shares.store held),
    shares.logged _ held⟩

theorem replaceItems (shares : Shares related) (items : Table Text Text) : (replaceItems items).Twin related := by
  apply twin_get_bind
  intro first second held
  rw [shares.store held]
  cases second.store.replace items <;> exact ⟨rfl, shares.stored _ held⟩

theorem getItem (shares : Shares related) (key : Text) : (getItem key).Twin related :=
  (shares.permit _).bind fun _ => shares.items.bind fun _ => twin_pure _

theorem setItem (shares : Shares related) (key value : Text) : (setItem key value).Twin related :=
  (shares.call (.setItem key value) id).bind fun _ => shares.items.bind fun _ => shares.replaceItems _

theorem clear (shares : Shares related) : clear.Twin related :=
  (shares.call .clear id).bind fun _ => shares.replaceItems _

theorem loadOrEmpty (shares : Shares related) (key : Text) : (loadOrEmpty key).Twin related :=
  (twin_load (shares.getItem key) shares.note).bind fun _ => twin_pure _

theorem save (shares : Shares related) (key : Text) (workflow : Workflow) : (save key workflow).Twin related :=
  (shares.setItem _ _).bind fun _ => shares.note _

theorem relabel (shares : Shares related) (label : Text) : (relabel label).Twin related :=
  (shares.loadOrEmpty _).bind fun _ => (shares.save _ _).bind fun _ => twin_pure _

theorem editAction (shares : Shares related) (id : Text) (edit : Workflow → Workflow) :
    (editAction id edit).Twin related := by
  apply (shares.loadOrEmpty _).bind
  intro workflow
  split
  · exact twin_pure _
  · exact (shares.save _ _).bind fun _ => twin_pure _

end Shares

end

/-! ## Stages that are alike -/

structure Alike (first second : Stage) : Prop where
  store : first.store = second.store
  ids : first.ids = second.ids
  permits : ∀ number call, first.refusal number call = none ∧ second.refusal number call = none

theorem alike_shares : Shares Alike where
  store := Alike.store
  refused := fun alike _ => (alike.permits _ _).1.trans (alike.permits _ _).2.symm
  counted := fun alike => ⟨alike.store, alike.ids, alike.permits⟩
  called := fun _ alike => ⟨alike.store, alike.ids, alike.permits⟩
  logged := fun _ alike => ⟨alike.store, alike.ids, alike.permits⟩
  stored := fun _ alike => ⟨rfl, alike.ids, alike.permits⟩

theorem twin_addAction (kind : Kind) (params : Option Params) : (addAction kind params).Twin Alike := by
  apply (alike_shares.loadOrEmpty _).bind
  intro workflow
  apply twin_get_bind
  intro first second alike
  -- the ids that are left are the same on both stages
  rw [alike.ids]
  refine Twin.bind ?_ (fun _ => ?_) first second alike
  · exact twin_modify fun _ _ alike => ⟨alike.store, rfl, alike.permits⟩
  · exact (alike_shares.save _ _).bind fun _ => twin_pure _

end Stage

end Pushbutton
