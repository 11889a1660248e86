import Pushbutton.Proofs.Run.Isolation
import Pushbutton.Proofs.Run.Surface

/-! Whether a run has its page reloaded. On a host that raises no faults, it has if it dispatches an action that asks
for it; and a run that dispatches none goes through all its actions. -/

set_option autoImplicit false

namespace Pushbutton

def Report.Refreshes (report : Report) : Prop := ∃ step ∈ report.steps, step.kind = .refreshPage

theorem Report.refreshes_iff_of_steps {report : Report} {actions : List Action}
    (steps : report.steps.map (fun step => (step.id, step.kind)) =
      (actions.take report.steps.length).map (fun action => (action.id, action.kind)))
    (all : ¬ report.Refreshes → report.steps.length = actions.length) :
    report.Refreshes ↔ ∃ action ∈ actions, action.kind = .refreshPage := by
  have kinds := congrArg (List.map Prod.snd) steps
  simp only [List.map_map, Function.comp_def] at kinds
  have told : report.Refreshes ↔ ∃ action ∈ actions.take report.steps.length, action.kind = .refreshPage := by
    rw [Report.Refreshes, ← List.mem_map, kinds, List.mem_map]
  constructor
  · intro refreshes
    obtain ⟨action, member, refreshPage⟩ := told.mp refreshes
    exact ⟨action, List.mem_of_mem_take member, refreshPage⟩
  · intro refreshes
    -- without a reload all actions are dispatched, and this one among them
    by_contra still
    rw [all still, List.take_length] at told
    exact still (told.mpr refreshes)

namespace Stage

/-- No call on the host raises a fault, and this is whether its page was reloaded. -/
structure Refreshed (reloaded : Bool) (stage : Stage) : Prop where
  granted : stage.HostReady
  reloaded : stage.host.reloaded = reloaded

open Effect

variable {reloaded : Bool} {stage : Stage}

theorem Refreshed.of_eq (refreshed : Refreshed reloaded stage) {after : Stage}
    (refusal : after.refusal = stage.refusal) (host : after.host = stage.host) : Refreshed reloaded after := by
  refine ⟨?_, host ▸ refreshed.reloaded⟩
  unfold HostReady
  rw [refusal]
  exact refreshed.granted

theorem Refreshed.only (refreshed : Refreshed reloaded stage) {after : Stage}
    (refusal : after.refusal = stage.refusal) (host : after.host = stage.host) :
    Only (Refreshed reloaded) after after := ⟨rfl, refreshed.of_eq refusal host⟩

theorem shares_refreshed : Shares (Only (Refreshed reloaded)) :=
  shares_only fun _ _ _ _ refreshed => refreshed.of_eq rfl rfl

theorem bond_refreshed : Bond (fun _ => False) (fun _ => True) (fun _ => True) (Only (Refreshed reloaded)) where
  control := by
    rintro first _ ⟨rfl, _⟩
    rfl
  draws := by
    rintro first _ ⟨rfl, _⟩
    rfl
  quiet := by
    rintro change quiet first _ ⟨rfl, refreshed⟩
    cases quiet <;> exact refreshed.only rfl rfl
  getItem _ := (shares_refreshed.getItem _).unless _
  setItem _ _ := (shares_refreshed.setItem _ _).unless _
  setText text := twinUnless_only_iff.mpr <|
    keepsUnless_modify_setItem (fun _ refreshed => refreshed.of_eq rfl rfl)
      ((twin_only_iff.mp (shares_refreshed.setItem _ _)).unless _)
  setImageUrl imageUrl := twinUnless_only_iff.mpr <|
    keepsUnless_modify_setItem (fun _ refreshed => refreshed.of_eq rfl rfl)
      ((twin_only_iff.mp (shares_refreshed.setItem _ _)).unless _)

theorem Refreshed.hosted (refreshed : Refreshed reloaded stage) (call : Call) :
    Refreshed (reloaded || call = .reload) (stage.hosted call) := by
  refine ⟨refreshed.granted, ?_⟩
  rw [Stage.hosted, Host.reloaded_after, refreshed.reloaded]

theorem keeps_refreshed {call : Call} (onHost : call.OnHost) (other : call ≠ .reload) :
    call.effect.Keeps (Refreshed reloaded) := by
  intro stage refreshed
  rw [perform_onHost onHost (refreshed.granted _ _ onHost)]
  have hosted := refreshed.hosted call
  rwa [decide_eq_false other, Bool.or_false] at hosted

theorem Refreshed.dispatch (refreshed : Refreshed reloaded stage) (action : Action) :
    Refreshed (reloaded || action.kind = .refreshPage) (action.dispatch.perform stage).2 := by
  by_cases refreshes : action.kind = .refreshPage
  · have hosted := refreshed.hosted .reload
    rw [perform_dispatch_refreshPage refreshes refreshed.granted, decide_eq_true refreshes]
    rwa [decide_eq_true rfl] at hosted
  · rw [decide_eq_false refreshes, Bool.or_false]
    have keeps : action.dispatch.Keeps (Refreshed reloaded) := by
      rw [keeps_iff]
      refine twinUnless_only_iff.mp (bond_refreshed.dispatch (fun _ _ => trivial) (fun _ _ => trivial) ?_)
      apply bond_refreshed.onHost
      intro call onHost reloads
      refine twinUnless_only_iff.mpr ((keeps_refreshed onHost fun reload => refreshes ?_).unless _)
      -- no other kind of action asks for this
      have asked := reloads reload
      cases kind : action.kind <;> rw [kind] at asked <;> first | rfl | cases asked
    exact keeps stage refreshed

/-! ## Runs -/

def Accounted (state : Stage × List Attempt) : Prop :=
  Refreshed (state.2.any fun attempt => attempt.action.kind = .refreshPage) state.1

theorem keeps_accounted (delay : Seconds) (actions : List Action) :
    (observing.performer delay).Keeps actions Accounted where
  dispatch action _ state refreshed := by
    have dispatched := Refreshed.dispatch refreshed action
    simp only [Accounted, Means.performer, observing, List.any_append, List.any_cons, List.any_nil, Bool.or_false]
    exact dispatched
  pause _ refreshed := Refreshed.of_eq refreshed rfl rfl
  notice _ _ refreshed := Refreshed.of_eq refreshed rfl rfl

theorem map_toStep (controlled : Bool) (attempts : List Attempt) :
    (attempts.mapIdx (Attempt.toStep controlled)).map (fun step => (step.id, step.kind)) =
      attempts.map fun attempt => (attempt.action.id, attempt.action.kind) := by
  apply List.ext_getElem?
  intro index
  simp only [List.getElem?_map, List.getElem?_mapIdx, Option.map_map]
  rfl

theorem refreshes_iff {controlled : Bool} {attempts : List Attempt} :
    Report.Refreshes ⟨attempts.mapIdx (Attempt.toStep controlled)⟩ ↔
      ∃ attempt ∈ attempts, attempt.action.kind = .refreshPage := by
  have kinds := congrArg (List.map Prod.snd) (map_toStep controlled attempts)
  simp only [List.map_map, Function.comp_def] at kinds
  rw [Report.Refreshes, ← List.mem_map, kinds, List.mem_map]

/-- The steps of a run are those of its first actions. Its page is reloaded just if the workflow has an action that
asks for it, and if it is not, the steps are those of all actions. -/
theorem run_refreshed (refreshed : Refreshed false stage) (delay : Seconds) (workflow : Workflow) :
    ∃ report after, (Stage.run delay workflow).perform stage = (.ok report, after) ∧
      report.steps.map (fun step => (step.id, step.kind)) =
        (workflow.actions.take report.steps.length).map (fun action => (action.id, action.kind)) ∧
      (after.host.reloaded = true ↔ report.Refreshes) ∧
      (report.Refreshes ↔ ∃ action ∈ workflow.actions, action.kind = .refreshPage) ∧
      (¬ report.Refreshes → report.steps.length = workflow.actions.length) := by
  obtain ⟨attempts, after, observed, ran, -, dispatched, -, stops⟩ := run_attempted delay workflow stage
  have start : Accounted (stage, []) := refreshed
  have accounted := (keeps_accounted delay workflow.actions).run start
  rw [observed] at accounted
  let report : Report := ⟨attempts.mapIdx (Attempt.toStep stage.control.isSome)⟩
  have reloads : after.host.reloaded = true ↔ report.Refreshes := by
    rw [refreshes_iff, accounted.reloaded]
    simp
  have steps : report.steps.map (fun step => (step.id, step.kind)) =
      (workflow.actions.take report.steps.length).map (fun action => (action.id, action.kind)) := by
    rw [map_toStep, List.length_mapIdx, ← dispatched, List.map_map]
    rfl
  have all : ¬ report.Refreshes → report.steps.length = workflow.actions.length := by
    intro still
    rw [List.length_mapIdx]
    refine stops.resolve_right ?_
    rintro ⟨last, final, reloaded⟩
    exact still (refreshes_iff.mpr ⟨last, List.mem_of_getLast? final, reloaded.1⟩)
  exact ⟨report, after, ran, steps, reloads, Report.refreshes_iff_of_steps steps all, all⟩

end Stage

end Pushbutton
