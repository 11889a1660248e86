import Pushbutton.Proofs.Run.Trace

/-! A run as a walk over its actions. What a cursor does one move after another is told at once for a list of actions,
so two lists in a row are walked one after the other, and a cursor that is stopped has walked the first actions. -/

set_option autoImplicit false

namespace Pushbutton

variable {σ ε : Type}

/-- The actions from an index on are performed, with a pause after each, up to one that ends the run. -/
def Performer.walk (performer : Performer σ ε) : Nat → List Action → σ → List Step × σ
  | _, [], state => ([], state)
  | index, action :: rest, state =>
    let (outcome, after) := performer.perform index action state
    let step : Step := ⟨index, action.id, action.kind, outcome⟩
    if outcome = .terminated then ([step], after)
    else
      let (steps, last) := performer.walk (index + 1) rest (performer.pause after)
      (step :: steps, last)

/-- As many steps as were asked for were given, and a pause comes after them if the run goes on. -/
def Step.owing (count : Nat) (steps : List Step) : Bool :=
  steps.length == count && steps.getLast?.any (·.outcome != .terminated)

theorem Step.owing_cons (count : Nat) (step : Step) (steps : List Step) :
    owing (count + 2) (step :: steps) = owing (count + 1) steps := by
  cases steps with
  | nil => simp [owing]
  | cons second rest => simp [owing, List.getLast?_cons_cons]

namespace Performer

variable (performer : Performer σ ε)

theorem walk_cons_of_ends {index : Nat} {action : Action} {state after : σ}
    (performed : performer.perform index action state = (.terminated, after)) (rest : List Action) :
    performer.walk index (action :: rest) state = ([⟨index, action.id, action.kind, .terminated⟩], after) := by
  simp [walk, performed]

theorem walk_cons {index : Nat} {action : Action} {outcome : Outcome} {state after : σ}
    (performed : performer.perform index action state = (outcome, after)) (goesOn : outcome ≠ .terminated)
    (rest : List Action) :
    performer.walk index (action :: rest) state =
      (⟨index, action.id, action.kind, outcome⟩ :: (performer.walk (index + 1) rest (performer.pause after)).1,
        (performer.walk (index + 1) rest (performer.pause after)).2) := by
  simp [walk, performed, goesOn]

/-! ## Cursors -/

theorem drained_eq_walk (actions rest : List Action) (index moves : Nat) (state : σ)
    (enough : rest.length ≤ moves) :
    Cursor.drained performer actions moves (Cursor.resume performer index .running state rest) =
      ((performer.walk index rest state).1,
        ⟨.finished, .ended, .idle, (performer.walk index rest state).2⟩) := by
  induction rest generalizing index moves state with
  | nil => rfl
  | cons action rest ih =>
    have positive : moves ≠ 0 := Nat.ne_of_gt (Nat.lt_of_lt_of_le rest.length.succ_pos enough)
    obtain ⟨moves, rfl⟩ := Nat.exists_eq_add_one_of_ne_zero positive
    rcases performed : performer.perform index action state with ⟨outcome, after⟩
    rw [Cursor.resume, performed, Cursor.drained]
    simp only [Cursor.drain_succ, Cursor.next]
    by_cases ends : outcome = .terminated
    · subst ends
      rw [walk_cons_of_ends performer performed, if_pos rfl]
      rfl
    · rw [walk_cons performer performed ends, if_neg ends, ih _ _ _ (Nat.le_of_succ_le_succ enough)]

/-- A cursor that is moved a number of times has walked as many actions. Only a pause may still be to come. -/
theorem drained_eq_walk_take (actions rest : List Action) (index moves : Nat) (state : σ) :
    let drained := Cursor.drained performer actions moves (Cursor.resume performer index .running state rest)
    let walked := performer.walk index (rest.take (moves + 1)) state
    drained.1 = walked.1 ∧
      drained.2.cursor.close drained.2.phase drained.2.state = ⟨.finished, .ended, .idle, drained.2.state⟩ ∧
      walked.2 =
        if Step.owing (moves + 1) drained.1 then performer.pause drained.2.state else drained.2.state := by
  induction rest generalizing index moves state with
  | nil => exact ⟨rfl, rfl, by simp [Cursor.drained, Cursor.resume, Cursor.finish, Phase.move, walk, Step.owing]⟩
  | cons action rest ih =>
    rcases performed : performer.perform index action state with ⟨outcome, after⟩
    rw [Cursor.resume, performed, Cursor.drained, List.take_succ_cons]
    by_cases ends : outcome = .terminated
    · subst ends
      rw [walk_cons_of_ends performer performed]
      cases moves with
      | zero => exact ⟨rfl, rfl, rfl⟩
      | succ moves =>
        simp only [Cursor.drain_succ, Cursor.next, if_pos]
        exact ⟨rfl, rfl, rfl⟩
    · rw [walk_cons performer performed ends]
      cases moves with
      | zero => exact ⟨rfl, rfl, by simp [Cursor.drain, walk, Step.owing, ends]⟩
      | succ moves =>
        obtain ⟨steps, closed, left⟩ := ih (index + 1) moves (performer.pause after)
        simp only [Cursor.drain_succ, Cursor.next, if_neg ends, Step.owing_cons]
        exact ⟨congrArg _ steps, closed, left⟩

theorem drain_eq_walk_take (actions : List Action) (count : Nat) (state : σ) :
    let drained := Cursor.drain performer actions count .fresh .idle state
    let walked := performer.walk 0 (actions.take count) state
    drained.1 = walked.1 ∧
      drained.2.cursor.close drained.2.phase drained.2.state = ⟨.finished, .ended, .idle, drained.2.state⟩ ∧
      walked.2 =
        if Step.owing count drained.1 then performer.pause drained.2.state else drained.2.state := by
  cases count with
  | zero => exact ⟨rfl, rfl, rfl⟩
  | succ moves => exact performer.drained_eq_walk_take actions actions 0 moves state

theorem drain_eq_walk (actions : List Action) (state : σ) :
    Cursor.drain performer actions (actions.length + 1) .fresh .idle state =
      ((performer.walk 0 actions state).1, ⟨.finished, .ended, .idle, (performer.walk 0 actions state).2⟩) :=
  performer.drained_eq_walk actions actions 0 actions.length state (Nat.le_refl _)

theorem run_eq_walk (workflow : Workflow) (state : σ) :
    performer.run workflow state =
      let walked := performer.walk 0 workflow.actions (performer.notice (.started workflow.actions.length) state)
      (⟨walked.1⟩, .idle,
        performer.notice (.finished walked.1.length (Report.terminated ⟨walked.1⟩)) walked.2) := by
  rw [run, drain_eq_walk]

/-! ## Two lists in a row -/

theorem walk_append (index : Nat) (first second : List Action) (state : σ) :
    performer.walk index (first ++ second) state =
      let one := performer.walk index first state
      if Report.terminated ⟨one.1⟩ then one
      else
        let two := performer.walk (index + first.length) second one.2
        (one.1 ++ two.1, two.2) := by
  induction first generalizing index state with
  | nil => rfl
  | cons action rest ih =>
    rcases performed : performer.perform index action state with ⟨outcome, after⟩
    rw [List.cons_append]
    by_cases ends : outcome = .terminated
    · subst ends
      rw [walk_cons_of_ends performer performed, walk_cons_of_ends performer performed]
      rfl
    · rw [walk_cons performer performed ends, walk_cons performer performed ends, ih]
      have length : index + (action :: rest).length = index + 1 + rest.length := by
        rw [List.length_cons]
        omega
      have told (steps : List Step) :
          Report.terminated ⟨⟨index, action.id, action.kind, outcome⟩ :: steps⟩ = Report.terminated ⟨steps⟩ := by
        simp [Report.terminated, ends]
      simp only [length, told]
      split <;> rfl

end Performer

def Step.later (count : Nat) (step : Step) : Step := { step with index := step.index + count }

theorem Performer.walk_later {performer : Performer σ ε}
    (silent : ∀ notice state, performer.notice notice state = state) (count index : Nat) (actions : List Action)
    (state : σ) :
    performer.walk (index + count) actions state =
      ((performer.walk index actions state).1.map (Step.later count), (performer.walk index actions state).2) := by
  induction actions generalizing index state with
  | nil => rfl
  | cons action rest ih =>
    have same : performer.perform (index + count) action state = performer.perform index action state := by
      simp only [perform, silent]
    rcases performed : performer.perform index action state with ⟨outcome, after⟩
    rw [performed] at same
    by_cases ends : outcome = .terminated
    · subst ends
      rw [walk_cons_of_ends performer same, walk_cons_of_ends performer performed]
      rfl
    · have next := ih (index + 1) (performer.pause after)
      rw [Nat.add_right_comm] at next
      rw [walk_cons performer same ends, walk_cons performer performed ends, next]
      rfl

/-! ## Walks with their calls -/

namespace Means

variable (means : Means σ ε) (delay : Seconds)

theorem perform_watched_append (index : Nat) (action : Action) (state : σ) (made : List (Made ε)) :
    (means.watched.performer delay).perform index action (state, made) =
      let performed := (means.watched.performer delay).perform index action (state, [])
      (performed.1, performed.2.1, made ++ performed.2.2) := by
  simp only [Performer.perform, performer, watched]
  rcases means.dispatch action (means.notice (.dispatching index action) state) with ⟨result, after⟩
  cases result <;> rfl

theorem walk_watched_append (index : Nat) (actions : List Action) (state : σ) (made : List (Made ε)) :
    (means.watched.performer delay).walk index actions (state, made) =
      let walked := (means.watched.performer delay).walk index actions (state, [])
      (walked.1, walked.2.1, made ++ walked.2.2) := by
  induction actions generalizing index state made with
  | nil => simp [Performer.walk]
  | cons action rest ih =>
    have same := means.perform_watched_append delay index action state made
    rcases performed : (means.watched.performer delay).perform index action (state, []) with ⟨outcome, after, calls⟩
    rw [performed] at same
    by_cases ends : outcome = .terminated
    · subst ends
      rw [Performer.walk_cons_of_ends _ same, Performer.walk_cons_of_ends _ performed]
    · have pauses (made : List (Made ε)) : (means.watched.performer delay).pause (after, made) =
        (means.sleep delay after, made ++ [.slept delay]) := rfl
      have both := ih (index + 1) (means.sleep delay after)
      rw [Performer.walk_cons _ same ends, Performer.walk_cons _ performed ends, pauses, pauses, both]
      dsimp only
      rw [both (calls ++ [Made.slept delay])]
      simp only [List.append_assoc]

end Means

end Pushbutton
