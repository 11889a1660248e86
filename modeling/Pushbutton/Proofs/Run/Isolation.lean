import Pushbutton.Proofs.Run.Invariant
import Pushbutton.Proofs.Run.Playback
import Pushbutton.Proofs.Run.Script

/-! Faults stay with the actions in which they are raised: they decide neither what becomes of other actions
nor how far a run goes. -/

set_option autoImplicit false

namespace Pushbutton

/-- An action that was dispatched, with the calls that this made. -/
structure Attempt where
  action : Action
  calls : List Called

namespace Attempt

def failed (attempt : Attempt) : Bool := attempt.calls.any Called.raised

def outcome (controlled : Bool) (attempt : Attempt) : Outcome :=
  if attempt.failed then .failed else attempt.action.outcome controlled

def toStep (controlled : Bool) (index : Nat) (attempt : Attempt) : Step :=
  ⟨index, attempt.action.id, attempt.action.kind, attempt.outcome controlled⟩

/-- The page was asked to reload, and this raised no fault. -/
def Reloaded (attempt : Attempt) : Prop :=
  attempt.action.kind = .refreshPage ∧ ⟨.reload, none⟩ ∈ attempt.calls

/-- The calls are those of the action, on some stage. -/
def Real (attempt : Attempt) : Prop := ∃ stage, attempt.calls = attempt.action.script.calls stage

end Attempt

theorem Action.outcome_ne_failed (controlled : Bool) (action : Action) :
    action.outcome controlled ≠ .failed := by
  unfold outcome
  split <;> try split
  all_goals nofun

theorem Action.outcome_eq_terminated_iff (controlled : Bool) (action : Action) :
    action.outcome controlled = .terminated ↔ action.kind = .refreshPage := by
  unfold outcome
  cases action.kind <;> simp only [reduceCtorEq, iff_self] <;> split <;> simp

theorem Action.calls_refreshPage {action : Action} (refreshes : action.kind = .refreshPage) (stage : Stage) :
    ∃ fault, action.script.calls stage = [⟨.reload, fault⟩] := by
  have opened : action.script = .ask .reload fun _ => .done .terminated := by
    rw [script, refreshes]
    rfl
  rw [opened, Script.calls]
  split
  · exact ⟨none, rfl⟩
  · next fault after _ => exact ⟨some fault, rfl⟩

theorem Attempt.outcome_eq_terminated_iff (controlled : Bool) {attempt : Attempt} (real : attempt.Real) :
    attempt.outcome controlled = .terminated ↔ attempt.Reloaded := by
  obtain ⟨stage, calls⟩ := real
  unfold outcome Reloaded failed
  by_cases refreshes : attempt.action.kind = .refreshPage
  · obtain ⟨fault, only⟩ := Action.calls_refreshPage refreshes stage
    rw [calls, only]
    cases fault with
    | none => simp [Called.raised, refreshes, Action.outcome]
    | some fault => simp [Called.raised]
  · simp only [refreshes, false_and, iff_false]
    split
    · nofun
    · rwa [Action.outcome_eq_terminated_iff]

theorem Attempt.outcome_eq_failed_iff (controlled : Bool) (attempt : Attempt) :
    attempt.outcome controlled = .failed ↔ ∃ called ∈ attempt.calls, called.raised = true := by
  rw [outcome, ← List.any_eq_true, ← failed]
  split
  · next raised => simp [raised]
  · next quiet => simp [quiet, attempt.action.outcome_ne_failed controlled]

/-! ## Runs with their attempts -/

def Stage.observing : Means (Stage × List Attempt) Fault where
  dispatch action state :=
    let (result, after) := action.dispatch.perform state.1
    (result, after, state.2 ++ [⟨action, action.script.calls state.1⟩])
  sleep delay state := ({ state.1 with events := state.1.events ++ [.slept delay] }, state.2)
  notice notice state := ({ state.1 with log := state.1.log ++ [Stage.noticeEntry notice] }, state.2)

theorem Stage.observing_over (delay : Seconds) :
    Performer.Over Prod.fst (observing.performer delay) (Stage.performer delay) :=
  ⟨fun _ _ => rfl, fun _ => rfl, fun _ _ => rfl⟩

theorem Stage.perform_run (delay : Seconds) (workflow : Workflow) (stage : Stage) :
    (Stage.run delay workflow).perform stage =
      let ran := (observing.performer delay).run workflow (stage, [])
      (.ok ran.1, ran.2.2.1) := by
  have whole : (Stage.run delay workflow).perform stage =
    let ran := (Stage.performer delay).run workflow stage
    (.ok ran.1, ran.2.2) := rfl
  rw [whole, ← (observing_over delay).run workflow (stage, [])]
  rfl

structure Accounts (controlled : Bool) (start : Stage) (state : (Stage × List Attempt) × List (Made Fault)) :
    Prop where
  control : state.1.1.control.isSome = controlled
  counted : state.1.1.calls = start.calls + (state.1.2.map (·.calls.length)).sum
  real : ∀ attempt ∈ state.1.2, attempt.Real
  results : (Made.dispatches state.2).map (fun dispatched => (dispatched.1, dispatched.outcome)) =
    state.1.2.map fun attempt => (attempt.action, attempt.outcome controlled)

theorem Action.outcome_dispatch (action : Action) {controlled : Bool} {stage : Stage}
    (held : stage.control.isSome = controlled) :
    Dispatched.outcome (action, (action.dispatch.perform stage).1) =
      Attempt.outcome controlled ⟨action, action.script.calls stage⟩ := by
  obtain ⟨_, _, value, fault⟩ := action.settled_dispatch held
  unfold Attempt.outcome Attempt.failed Dispatched.outcome
  cases result : (action.dispatch.perform stage).1 with
  | ok outcome =>
    obtain ⟨same, quiet⟩ := value outcome result
    have none : ((action.script.calls stage).any Called.raised) = false := by
      simpa [Called.raised] using quiet
    simp [none, same]
  | error raised =>
    obtain ⟨called, member, raises⟩ := fault raised result
    have some : ((action.script.calls stage).any Called.raised) = true := by
      simpa [Called.raised] using ⟨called, member, by simp [raises]⟩
    simp [some]

theorem Accounts.keeps (controlled : Bool) (start : Stage) (delay : Seconds) (actions : List Action) :
    (Stage.observing.watched.performer delay).Keeps actions (Accounts controlled start) := by
  refine ⟨fun action _ state before => ?_, fun state before => ?_, fun notice state before => ?_⟩
  · obtain ⟨control, counted, _, _⟩ := action.settled_dispatch before.control
    refine ⟨control, ?_, ?_, ?_⟩
    · have all := before.counted
      simp only [Means.performer, Means.watched, Stage.observing, counted, List.map_append, List.map_cons,
        List.map_nil, List.sum_append, List.sum_cons, List.sum_nil]
      omega
    · simp only [Means.performer, Means.watched, Stage.observing, List.forall_mem_append,
        List.forall_mem_singleton]
      exact ⟨before.real, state.1.1, rfl⟩
    · have outcome := action.outcome_dispatch before.control
      simp [Means.performer, Means.watched, Stage.observing, outcome, before.results]
  · refine ⟨before.control, before.counted, before.real, Eq.trans ?_ before.results⟩
    simp [Means.performer, Means.watched]
  · exact ⟨before.control, before.counted, before.real, before.results⟩

theorem Made.dispatches_calls (delay : Seconds) {ε : Type} (dispatches : List (Dispatched ε)) :
    Made.dispatches (dispatches.flatMap (Dispatched.calls delay)) = dispatches := by
  induction dispatches with
  | nil => rfl
  | cons dispatched rest ih =>
    rw [List.flatMap_cons, Made.dispatches_append, ih]
    unfold Dispatched.calls
    split <;> rfl

theorem Means.run_played {σ ε : Type} (means : Means σ ε) (delay : Seconds) (workflow : Workflow) (state : σ) :
    ∃ (dispatches : List (Dispatched ε)) (after : σ), Played workflow.actions dispatches ∧
      (means.watched.performer delay).run workflow (state, []) =
        (⟨dispatches.mapIdx Dispatched.toStep⟩, .idle, after,
          dispatches.flatMap (Dispatched.calls delay)) := by
  obtain ⟨dispatches, last, played, drained⟩ := means.drain_watched delay workflow.actions
    (means.notice (.started workflow.actions.length) state)
  have started : (means.watched.performer delay).notice (.started workflow.actions.length) (state, []) =
    (means.notice (.started workflow.actions.length) state, []) := rfl
  refine ⟨dispatches, means.notice (.finished dispatches.length
    (Report.terminated ⟨dispatches.mapIdx Dispatched.toStep⟩)) last, played, ?_⟩
  rw [Performer.run, started, drained]
  simp only [List.length_mapIdx]
  rfl

theorem Attempt.steps_eq {controlled : Bool} {dispatches : List (Dispatched Fault)} {attempts : List Attempt}
    (same : dispatches.map (fun dispatched => (dispatched.1, dispatched.outcome)) =
      attempts.map fun attempt => (attempt.action, attempt.outcome controlled)) :
    dispatches.mapIdx Dispatched.toStep = attempts.mapIdx (Attempt.toStep controlled) := by
  apply List.ext_getElem?
  intro index
  have there := congrArg (·[index]?) same
  simp only [List.getElem?_map] at there
  rw [List.getElem?_mapIdx, List.getElem?_mapIdx]
  cases dispatch : dispatches[index]? <;> cases attempt : attempts[index]? <;>
    simp_all [Dispatched.toStep, toStep]

theorem Attempt.extent {controlled : Bool} {actions : List Action} {dispatches : List (Dispatched Fault)}
    {attempts : List Attempt} (played : Played actions dispatches)
    (results : dispatches.map (fun dispatched => (dispatched.1, dispatched.outcome)) =
      attempts.map fun attempt => (attempt.action, attempt.outcome controlled))
    (real : ∀ attempt ∈ attempts, attempt.Real) :
    attempts.map (·.action) = actions.take attempts.length ∧
      (∀ earlier ∈ attempts.dropLast, ¬ earlier.Reloaded) ∧
      (attempts.length = actions.length ∨ ∃ last ∈ attempts.getLast?, last.Reloaded) := by
  have length : dispatches.length = attempts.length := by simpa using congrArg List.length results
  have reloaded {attempt : Attempt} (member : attempt ∈ attempts) :=
    Attempt.outcome_eq_terminated_iff controlled (real attempt member)
  refine ⟨?_, ?_, ?_⟩
  · have all := congrArg (List.map Prod.fst) results
    simp only [List.map_map] at all
    rw [← length, ← played.actions_eq]
    exact all.symm
  · intro earlier member reload
    have ends := (reloaded (List.dropLast_subset _ member)).mpr reload
    have all := congrArg List.dropLast results
    rw [← List.map_dropLast, ← List.map_dropLast] at all
    obtain ⟨dispatched, before, same⟩ := List.mem_map.mp (all ▸ List.mem_map_of_mem member)
    exact played.goes_on dispatched before ((Prod.mk.inj same).2.trans ends)
  · refine played.stops.imp (fun whole => length.symm.trans whole) ?_
    rintro ⟨dispatched, last, ends⟩
    have all := congrArg List.getLast? results
    rw [List.getLast?_map, List.getLast?_map, Option.mem_def.mp last] at all
    obtain ⟨attempt, there, same⟩ := Option.map_eq_some_iff.mp all.symm
    refine ⟨attempt, there, (reloaded (List.mem_of_getLast? there)).mp ?_⟩
    exact (Prod.mk.inj same).2.trans ends

/-- A run makes attempts, up to the first reload of the page that raised no fault, or through all actions. -/
theorem Stage.run_attempted (delay : Seconds) (workflow : Workflow) (stage : Stage) :
    ∃ (attempts : List Attempt) (after : Stage),
      let report : Report := ⟨attempts.mapIdx (Attempt.toStep stage.control.isSome)⟩
      (observing.performer delay).run workflow (stage, []) = (report, .idle, after, attempts) ∧
      (Stage.run delay workflow).perform stage = (.ok report, after) ∧
      after.calls = stage.calls + (attempts.map (·.calls.length)).sum ∧
      attempts.map (·.action) = workflow.actions.take attempts.length ∧
      (∀ earlier ∈ attempts.dropLast, ¬ earlier.Reloaded) ∧
      (attempts.length = workflow.actions.length ∨ ∃ last ∈ attempts.getLast?, last.Reloaded) := by
  obtain ⟨dispatches, ⟨after, attempts⟩, played, ran⟩ := observing.run_played delay workflow (stage, [])
  have start : Accounts stage.control.isSome stage ((stage, []), []) :=
    ⟨rfl, rfl, fun _ member => (List.not_mem_nil member).elim, rfl⟩
  have accounts := (Accounts.keeps stage.control.isSome stage delay workflow.actions).run start
  rw [ran] at accounts
  obtain ⟨_, counted, real, results⟩ := accounts
  simp only [Made.dispatches_calls] at counted real results
  have seen := (observing.watched_over delay).run workflow ((stage, []), [])
  rw [ran] at seen
  rw [Attempt.steps_eq results] at seen
  refine ⟨attempts, after, seen.symm, ?_, counted, Attempt.extent played results real⟩
  rw [perform_run, ← seen]
  rfl

/-- A fault fails the action in which it is raised, and nothing else. Whatever calls raise faults on whatever
stage, the outcome of an action is told from the action and from whether there is a button, unless one of its
own calls raised a fault; and the run goes on to the first reload of the page that raised none, or through all
actions. No fault leaves the run. -/
theorem Stage.run_isolates (delay : Seconds) (workflow : Workflow) (stage : Stage) :
    ∃ (attempts : List Attempt) (after : Stage),
      let report : Report := ⟨attempts.mapIdx (Attempt.toStep stage.control.isSome)⟩
      (observing.performer delay).run workflow (stage, []) = (report, .idle, after, attempts) ∧
      (Stage.run delay workflow).perform stage = (.ok report, after) ∧
      after.calls = stage.calls + (attempts.map (·.calls.length)).sum ∧
      (∀ attempt ∈ attempts, attempt.outcome stage.control.isSome = .failed ↔
        ∃ called ∈ attempt.calls, called.raised = true) ∧
      attempts.map (·.action) = workflow.actions.take attempts.length ∧
      (∀ earlier ∈ attempts.dropLast, ¬ earlier.Reloaded) ∧
      (attempts.length = workflow.actions.length ∨ ∃ last ∈ attempts.getLast?, last.Reloaded) := by
  obtain ⟨attempts, after, observed, ran, counted, extent⟩ := run_attempted delay workflow stage
  exact ⟨attempts, after, observed, ran, counted, fun attempt _ => attempt.outcome_eq_failed_iff _, extent⟩

end Pushbutton
