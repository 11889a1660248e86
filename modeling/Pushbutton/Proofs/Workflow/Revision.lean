import Pushbutton.Proofs.Stage.Uniform

/-! Revisions of the saved workflow: it is loaded, edited once and saved. Wherever loading and saving come to the
same, so do whole revisions. -/

set_option autoImplicit false

namespace Pushbutton

inductive Revision where
  | append (kind : Kind)
  | remove (id : Text)
  | update (id : Text) (kind : Option Kind) (params : Option Params)
  | reorder (source : Int) (target : Option Int)
  | relabel (label : Text)
  deriving DecidableEq, Repr

def MoveFault.raised (fault : MoveFault) : Fault :=
  match fault with
  | .empty | .outOfRange => .external "IndexError" fault.message
  | .beyondWord => .external "OverflowError" fault.message

def Revision.apply (revision : Revision) (workflow : Workflow) (ids : IdSource) :
    Except Fault Workflow × IdSource :=
  match revision with
  | .append kind => ((workflow.append kind ids).map .ok id)
  | .remove id => (.ok (workflow.remove id), ids)
  | .update id kind params => (.ok (workflow.update id kind params), ids)
  | .reorder source target => ((workflow.reorder source target).mapError MoveFault.raised, ids)
  | .relabel label => (.ok (workflow.relabel label), ids)

namespace Stage

def revise (revision : Revision) : Effect Workflow := do
  let workflow ← loadOrEmpty Workflow.savedKey
  let applied := revision.apply workflow (← get).ids
  modify fun stage => { stage with ids := applied.2 }
  let revised ← Effect.ofExcept applied.1
  save Workflow.savedKey revised
  return revised

section

open Effect

variable {lost : Fault → Prop} {related : Stage → Stage → Prop}

theorem twinUnless_revise (getItem : (getItem Workflow.savedKey).Twin related)
    (setItem : ∀ value, (setItem Workflow.savedKey value).TwinUnless lost related)
    (note : ∀ entry, (note entry).Twin related)
    (ids : ∀ first second, related first second → first.ids = second.ids)
    (renumbered : ∀ ids first second, related first second → related { first with ids } { second with ids })
    (revision : Revision) : (revise revision).TwinUnless lost related := by
  have loads : (loadOrEmpty Workflow.savedKey).Twin related := (twin_load getItem note).bind fun _ => twin_pure _
  apply (loads.unless lost).bind
  intro workflow
  apply twinUnless_get_bind
  intro first second held
  rw [ids first second held]
  refine TwinUnless.bind ((twin_modify (renumbered _)).unless lost) (fun _ => ?_) first second held
  apply ((twin_ofExcept _).unless lost).bind
  intro revised
  refine TwinUnless.bind ?_ fun _ => twinUnless_pure revised
  exact (setItem _).bind fun _ => (note _).unless lost

end

end Stage

end Pushbutton
