import Mathlib.Tactic.TFAE
import Pushbutton.Proofs.Run.Script
import Pushbutton.Proofs.Workflow.Listing
import Pushbutton.Service.View

/-! Actions that are skipped. Which they are is told in the listing of a workflow and by the service, before any of
them is dispatched; and to skip one is to do nothing but to note it. -/

set_option autoImplicit false

namespace Pushbutton

namespace Action

def skippedEntry (action : Action) : Log.Entry :=
  { severity := .debug, logger := dispatchLogger, message := "Action skipped", extra := action.logFields }

/-- Skipped is what lacks a parameter that it needs, or a button to change. -/
theorem outcome_eq_skipped_iff (controlled : Bool) (action : Action) :
    action.outcome controlled = .skipped ↔
      Params.missing action.kind action.params ≠ [] ∨
        controlled = false ∧ (action.kind = .increaseButtonSize ∨ action.kind = .changeButtonColor) := by
  unfold outcome Params.missing
  cases action.kind <;> simp [Kind.needs, Params.get, List.filter_cons]

theorem perform_request_of_skipped {action : Action} {stage : Stage}
    (skipped : action.outcome stage.control.isSome = .skipped) :
    (Request.of action.kind action.params).perform.perform stage = (.ok .skipped, stage) := by
  have styled (property : String) (value : Effect Text) (bare : stage.control = none) :
      (Request.styled property value).perform stage = (.ok .skipped, stage) := by
    rw [Request.styled, Stage.setStyle, bind_assoc, Effect.perform_bind, Effect.perform_get]
    simp only [bare]
    rfl
  unfold outcome at skipped
  cases kind : action.kind <;> simp only [kind] at skipped
  case setLocalStorage | getLocalStorage =>
    have absent : action.params.key.getD "" = "" := by simpa using skipped
    simp only [Request.of, Request.perform, absent, if_pos]
    rfl
  case increaseButtonSize | changeButtonColor => exact styled _ _ (by simpa using skipped)
  all_goals cases skipped

theorem perform_dispatch_of_skipped {action : Action} {stage : Stage}
    (skipped : action.outcome stage.control.isSome = .skipped) :
    action.dispatch.perform stage =
      (.ok .skipped, { stage with log := stage.log ++ [action.skippedEntry] }) := by
  rw [dispatch, Effect.perform_bind_of_ok (perform_request_of_skipped skipped)]
  rfl

theorem outcome_of_perform {action : Action} {stage : Stage} {outcome : Outcome}
    (performed : (action.dispatch.perform stage).1 = .ok outcome) :
    action.outcome stage.control.isSome = outcome :=
  ((action.settled_dispatch rfl).value _ performed).1.symm

theorem dispatch_skipped_iff {action : Action} {stage : Stage} :
    (action.dispatch.perform stage).1 = .ok .skipped ↔ action.outcome stage.control.isSome = .skipped := by
  refine ⟨outcome_of_perform, fun skipped => ?_⟩
  rw [perform_dispatch_of_skipped skipped]

theorem calls_of_skipped {action : Action} {stage : Stage}
    (skipped : action.outcome stage.control.isSome = .skipped) : action.script.calls stage = [] := by
  have settled : Script.Settled _ _ stage _ _ := action.settled_dispatch rfl
  have counted := settled.counted
  rw [perform_dispatch_of_skipped skipped] at counted
  exact List.eq_nil_of_length_eq_zero (Nat.left_eq_add.mp counted)

end Action

/-! ## What is told of it -/

namespace Workflow

def Notes (workflow : Workflow) (place : Nat) (fields : List Field) : Prop :=
  ∃ line, workflow.describe[place + 1]? = some line ∧ (Action.missingText fields : Text).toList <:+ line.toList

variable {workflow : Workflow} {place : Nat} {action : Action} {fields : List Field}

theorem notes_iff (found : workflow.actions[place]? = some action) (given : fields ≠ []) :
    workflow.Notes place fields ↔ fields = Params.missing action.kind action.params := by
  rw [← action.missingText_suffix_line_iff given place, Notes, getElem?_describe found]
  simp

end Workflow

namespace Service

def Tells (view : Json) (place : Nat) (fields : List Field) : Prop :=
  ∃ entries entry, view.member? "actions" = some (.arr entries) ∧ entries[place]? = some entry ∧
    entry.member? "missing" = some (fieldNames fields)

theorem fieldNames_injective {fields others : List Field} (same : fieldNames fields = fieldNames others) :
    fields = others := by
  have names := List.map_inj_right (fun _ _ => Json.str.inj) |>.mp (Json.arr.inj same)
  exact List.map_inj_right (fun _ _ same => Field.text_name_injective same) |>.mp names

theorem member?_missing_actionView (action : Action) :
    (actionView action).member? "missing" = some (fieldNames (Params.missing action.kind action.params)) := rfl

variable {workflow : Workflow} {place : Nat} {action : Action} {fields : List Field}

theorem tells_iff (found : workflow.actions[place]? = some action) (configured : Bool) :
    Tells (workflowView configured workflow) place fields ↔
      fields = Params.missing action.kind action.params := by
  have listed : (workflow.actions.map actionView)[place]? = some (actionView action) := by
    rw [List.getElem?_map, found]
    rfl
  have shown : (workflowView configured workflow).member? "actions" = some (.arr (workflow.actions.map actionView)) :=
    rfl
  constructor
  · rintro ⟨entries, entry, isShown, entered, missing⟩
    rw [shown] at isShown
    cases isShown
    rw [listed] at entered
    cases entered
    exact fieldNames_injective (Option.some.inj missing).symm
  · rintro rfl
    exact ⟨_, _, shown, listed, member?_missing_actionView action⟩

end Service

open Pushbutton.Action in
/-- The listing and the service tell exactly what will be skipped for want of a parameter, and all that it wants. What
is skipped, for this or for want of a button, leaves no trace but in the log. -/
theorem Workflow.skips_as_told {workflow : Workflow} {place : Nat} {action : Action}
    (found : workflow.actions[place]? = some action) (configured : Bool) :
    (∀ stage : Stage, stage.control.isSome →
      List.TFAE [(action.dispatch.perform stage).1 = .ok .skipped,
        Params.missing action.kind action.params ≠ [],
        ∃ fields, fields ≠ [] ∧ workflow.Notes place fields,
        ∃ fields, fields ≠ [] ∧ Service.Tells (Service.workflowView configured workflow) place fields]) ∧
    (∀ fields, fields ≠ [] →
      (workflow.Notes place fields ↔ fields = Params.missing action.kind action.params)) ∧
    (∀ fields, Service.Tells (Service.workflowView configured workflow) place fields ↔
      fields = Params.missing action.kind action.params) ∧
    ∀ stage after, action.dispatch.perform stage = (.ok .skipped, after) →
      action.script.calls stage = [] ∧ after = { stage with log := stage.log ++ [action.skippedEntry] } := by
  refine ⟨fun stage held => ?_, fun _ given => notes_iff found given, fun _ => Service.tells_iff found configured,
    fun stage after performed => ?_⟩
  · tfae_have 1 ↔ 2 := by
      rw [dispatch_skipped_iff, outcome_eq_skipped_iff, held]
      simp
    tfae_have 2 ↔ 3 := by
      constructor
      · exact fun lacks => ⟨_, lacks, (notes_iff found lacks).mpr rfl⟩
      · rintro ⟨fields, given, noted⟩
        exact (notes_iff found given).mp noted ▸ given
    tfae_have 2 ↔ 4 := by
      simp [Service.tells_iff found]
    tfae_finish
  · have skipped := outcome_of_perform (congrArg Prod.fst performed)
    refine ⟨calls_of_skipped skipped, ?_⟩
    rw [perform_dispatch_of_skipped skipped] at performed
    exact (Prod.mk.inj performed).2.symm

/-- An item is to be set whose key is there but empty. -/
def blankKey : Action := { id := "b", kind := .setLocalStorage, params := { key := some "", value := some "v" } }

def blankSecond : Workflow := { label := "Go", actions := [{ id := "a", kind := .alert }, blankKey] }

def emptyStage : Stage := { store := .memory [], control := some {} }

theorem Workflow.skips_as_told_of_blank_key :
    blankSecond.actions[1]? = some blankKey ∧ blankSecond.Notes 1 [.key] ∧
      Service.Tells (Service.workflowView true blankSecond) 1 [.key] ∧
      ∃ after, blankKey.dispatch.perform emptyStage = (.ok .skipped, after) ∧
        blankKey.script.calls emptyStage = [] ∧ after.log = [blankKey.skippedEntry] := by
  have found : blankSecond.actions[1]? = some blankKey := rfl
  obtain ⟨same, notes, tells, quiet⟩ := skips_as_told found true
  have skipped := ((same emptyStage rfl).out 0 1).mpr (by decide)
  have performed := Prod.ext skipped rfl
  obtain ⟨calls, after⟩ := quiet _ _ performed
  exact ⟨found, (notes _ (by decide)).mpr (by decide), (tells _).mpr (by decide), _, performed, calls,
    congrArg Stage.log after⟩

end Pushbutton
