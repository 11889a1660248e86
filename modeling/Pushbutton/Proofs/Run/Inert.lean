import Mathlib.Data.List.Forall2
import Pushbutton.Proofs.Run.Isolation

/-! What an action does not read makes no difference to a run. Without it the action is dispatched as before and told
of as before, and so is a whole run of such actions. -/

set_option autoImplicit false

namespace Pushbutton

/-! ## Actions with nothing left over -/

namespace Action

/-- The same id, the same kind, and the same values in all that this kind reads. -/
structure Alike (first second : Action) : Prop where
  id : first.id = second.id
  kind : first.kind = second.kind
  reads : ∀ field ∈ first.kind.reads, first.params.get field = second.params.get field

def bare (action : Action) : Action :=
  { action with
    params := Params.ofFields fun field => if field ∈ action.kind.reads then action.params.get field else none }

theorem get_params_bare {action : Action} {field : Field} (read : field ∈ action.kind.reads) :
    action.bare.params.get field = action.params.get field := by
  rw [bare, Params.get_ofFields, if_pos read]

theorem Alike.bare_eq {first second : Action} (alike : first.Alike second) : first.bare = second.bare := by
  obtain ⟨id, kind, params⟩ := first
  obtain ⟨_, _, others⟩ := second
  obtain ⟨rfl, rfl, reads⟩ := alike
  have chosen : (fun field => if field ∈ kind.reads then params.get field else none) =
      fun field => if field ∈ kind.reads then others.get field else none := by
    funext field
    split
    · next read => exact reads field read
    · rfl
  simp only [bare, chosen]

theorem request_bare (action : Action) :
    Request.of action.kind action.bare.params = Request.of action.kind action.params :=
  Request.of_congr fun _ read => get_params_bare read

theorem dispatch_bare (action : Action) : action.bare.dispatch = action.dispatch :=
  congrArg (fun request => request.perform >>= _) action.request_bare

theorem script_bare (action : Action) : action.bare.script = action.script :=
  congrArg (fun request => request.script >>= _) action.request_bare

end Action

/-! ## Runs of changed actions -/

def Cursor.map (change : Action → Action) : Cursor → Cursor
  | .fresh => .fresh
  | .paused next outcome rest => .paused next outcome (rest.map change)
  | .ended => .ended

variable {σ ε : Type}

/-- The change makes no difference to what is done with an action and what is told of it. -/
structure Performer.Blind (performer : Performer σ ε) (change : Action → Action) : Prop where
  sameId : ∀ action, (change action).id = action.id
  sameKind : ∀ action, (change action).kind = action.kind
  dispatch : ∀ action, performer.dispatch (change action) = performer.dispatch action
  dispatching : ∀ index action,
    performer.notice (.dispatching index (change action)) = performer.notice (.dispatching index action)
  failed : ∀ index action fault,
    performer.notice (.failed index (change action) fault) = performer.notice (.failed index action fault)

def Moved.among (change : Action → Action) (moved : Moved σ) : Moved σ :=
  { moved with cursor := moved.cursor.map change }

namespace Performer.Blind

variable {performer : Performer σ ε} {change : Action → Action}

theorem perform (blind : performer.Blind change) (index : Nat) (action : Action) (state : σ) :
    performer.perform index (change action) state = performer.perform index action state := by
  simp only [Performer.perform, blind.dispatch, blind.dispatching, blind.failed]

theorem among_finish (phase : Phase) (state : σ) :
    (Cursor.finish phase state).among change = Cursor.finish phase state := by
  unfold Cursor.finish
  split <;> rfl

theorem resume (blind : performer.Blind change) (index : Nat) (phase : Phase) (state : σ) (rest : List Action) :
    Cursor.resume performer index phase state (rest.map change) =
      (Cursor.resume performer index phase state rest).among change := by
  cases rest with
  | nil => exact (among_finish phase state).symm
  | cons action rest =>
    simp only [Cursor.resume, List.map_cons, blind.perform, blind.sameId, blind.sameKind]
    rfl

theorem next (blind : performer.Blind change) (actions : List Action) (phase : Phase) (state : σ) (cursor : Cursor) :
    (cursor.map change).next performer (actions.map change) phase state =
      (cursor.next performer actions phase state).among change := by
  cases cursor with
  | fresh =>
    simp only [Cursor.map, Cursor.next]
    split
    · exact blind.resume _ _ _ _
    · rfl
  | paused index outcome rest =>
    simp only [Cursor.map, Cursor.next]
    split
    · exact (among_finish phase state).symm
    · exact blind.resume _ _ _ _
  | ended => rfl

theorem drain (blind : performer.Blind change) (actions : List Action) (moves : Nat) (cursor : Cursor)
    (phase : Phase) (state : σ) :
    (cursor.map change).drain performer (actions.map change) moves phase state =
      (cursor.drain performer actions moves phase state).map id (Moved.among change) := by
  induction moves generalizing cursor phase state with
  | zero => rfl
  | succ moves ih =>
    simp only [Cursor.drain, blind.next]
    generalize cursor.next performer actions phase state = moved
    obtain ⟨answer, cursor, phase, state⟩ := moved
    cases answer with
    | step step => simp only [Moved.among, ih]; rfl
    | finished | refused fault => rfl

theorem run (blind : performer.Blind change) {workflow changed : Workflow}
    (actions : changed.actions = workflow.actions.map change) (state : σ) :
    performer.run changed state = performer.run workflow state := by
  have drained := blind.drain workflow.actions (workflow.actions.length + 1) .fresh .idle
    (performer.notice (.started workflow.actions.length) state)
  simp only [Cursor.map] at drained
  simp only [Performer.run, actions, List.length_map, drained]
  rfl

theorem run_eq (blind : performer.Blind change) {workflow other : Workflow}
    (same : workflow.actions.map change = other.actions.map change) (state : σ) :
    performer.run workflow state = performer.run other state := by
  let changed : Workflow := { actions := workflow.actions.map change }
  have first : performer.run changed state = performer.run workflow state := blind.run rfl state
  exact first.symm.trans (blind.run same state)

end Performer.Blind

/-! ## Runs on a stage -/

namespace Stage

/-- The means of a run on a stage, with the calls that each dispatch made. -/
def hearing : Means (Stage × List (List Called)) Fault where
  dispatch action state :=
    let (result, after) := action.dispatch.perform state.1
    (result, after, state.2 ++ [action.script.calls state.1])
  sleep delay state := ({ state.1 with events := state.1.events ++ [.slept delay] }, state.2)
  notice notice state := ({ state.1 with log := state.1.log ++ [noticeEntry notice] }, state.2)

theorem observing_over_hearing (delay : Seconds) :
    Performer.Over (Prod.map id (List.map Attempt.calls)) (observing.performer delay) (hearing.performer delay) where
  dispatch action state := by simp [Means.performer, observing, hearing]
  pause _ := rfl
  notice _ _ := rfl

theorem blind_hearing (delay : Seconds) : (hearing.performer delay).Blind Action.bare where
  sameId _ := rfl
  sameKind _ := rfl
  dispatch action := by simp only [Means.performer, hearing, action.dispatch_bare, action.script_bare]
  dispatching _ _ := rfl
  failed _ _ _ := rfl

/-- Runs over actions that are alike in all that their kinds read cannot be told apart, whatever the stage and
whatever calls are refused on it: the same calls are made for each action and in the same order, and the reports and
the stages that are left are the same, with their stores, outputs, buttons, random numbers, answers and logs. -/
theorem run_inert (delay : Seconds) {workflow other : Workflow}
    (alike : List.Forall₂ Action.Alike workflow.actions other.actions) (stage : Stage) :
    let ran := (observing.performer delay).run workflow (stage, [])
    let ranToo := (observing.performer delay).run other (stage, [])
    ran.1 = ranToo.1 ∧ ran.2.2.1 = ranToo.2.2.1 ∧
      ran.2.2.2.map (·.calls) = ranToo.2.2.2.map (·.calls) ∧
      (Stage.run delay workflow).perform stage = (.ok ran.1, ran.2.2.1) ∧
      (Stage.run delay other).perform stage = (Stage.run delay workflow).perform stage := by
  have bare : workflow.actions.map Action.bare = other.actions.map Action.bare := by
    rw [← List.forall₂_eq_eq_eq, List.forall₂_map_left_iff, List.forall₂_map_right_iff]
    exact alike.imp fun _ _ => Action.Alike.bare_eq
  intro ran ranToo
  have same : ran.map id (Prod.map id (Prod.map id (List.map Attempt.calls))) =
      ranToo.map id (Prod.map id (Prod.map id (List.map Attempt.calls))) := by
    have heard := (blind_hearing delay).run_eq bare (stage, [])
    have covers := (observing_over_hearing delay).run workflow (stage, [])
    have coversToo := (observing_over_hearing delay).run other (stage, [])
    exact covers.trans (heard.trans coversToo.symm)
  have report : ran.1 = ranToo.1 := congrArg (·.1) same
  have left : ran.2.2.1 = ranToo.2.2.1 := congrArg (·.2.2.1) same
  refine ⟨report, left, congrArg (·.2.2.2) same, perform_run delay workflow stage, ?_⟩
  rw [perform_run delay workflow stage, perform_run delay other stage]
  exact Prod.ext (congrArg Except.ok report.symm) left.symm

/-- A colour is left over in the one, and a message in the other. -/
def leftColour : Workflow := ⟨"", [⟨"a", .getLocalStorage, { key := some "k", color := some "red" }⟩]⟩

def leftMessage : Workflow := ⟨"", [⟨"a", .getLocalStorage, { message := some "hi", key := some "k" }⟩]⟩

def closedStage : Stage :=
  { store := .memory [("k", "v")], refusal := fun _ _ => some (.external "OSError" "closed") }

theorem run_inert_refused :
    leftColour ≠ leftMessage ∧ List.Forall₂ Action.Alike leftColour.actions leftMessage.actions ∧
      (Stage.run (.whole 0) leftMessage).perform closedStage = (Stage.run (.whole 0) leftColour).perform closedStage ∧
      ((observing.performer (.whole 0)).run leftMessage (closedStage, [])).2.2.2.map (·.calls) =
        [[⟨.getItem "k", some (.external "OSError" "closed")⟩]] := by
  have alike : List.Forall₂ Action.Alike leftColour.actions leftMessage.actions :=
    .cons ⟨rfl, rfl, by decide⟩ .nil
  obtain ⟨-, -, calls, -, same⟩ := run_inert (.whole 0) alike closedStage
  refine ⟨by decide, alike, same, ?_⟩
  rw [← calls]
  rfl

end Stage

end Pushbutton
