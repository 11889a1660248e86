import Pushbutton.Proofs.Run.Walk

/-! What a run builds up. A property that speaks of the state and of what became of the actions so far is kept through
every move of a cursor and through a whole run, if it is kept by each dispatch. -/

set_option autoImplicit false

namespace Pushbutton

variable {σ ε : Type}

/-! ## Last words -/

section

variable {α β : Type} {tells : α → Option β} {told : β}

theorem getLast?_filterMap_concat (tells : α → Option β) (past : List α) (last : α) :
    ((past ++ [last]).filterMap tells).getLast? = (tells last).or (past.filterMap tells).getLast? := by
  rw [List.filterMap_append, List.getLast?_append]
  cases said : tells last <;> simp [said]

theorem getLast?_filterMap_take {past : List α} {entry : α} {here count : Nat} (inside : here < count)
    (there : past[here]? = some entry) (said : tells entry = some told)
    (silent : ∀ between, here < between → between < count → ∀ other, past[between]? = some other → tells other = none) :
    ((past.take count).filterMap tells).getLast? = some told := by
  -- on the number of entries, of which all after this one are silent
  induction count with
  | zero => exact absurd inside (Nat.not_lt_zero _)
  | succ count ih =>
    rw [List.take_add_one]
    by_cases last : here = count
    · subst last
      rw [there]
      exact (getLast?_filterMap_concat tells _ _).trans (by rw [said, Option.some_or])
    · have before : here < count := by omega
      have earlier := ih before fun between after within => silent between after (Nat.lt_succ_of_lt within)
      cases found : past[count]? with
      | none => simpa using earlier
      | some other =>
        refine (getLast?_filterMap_concat tells _ _).trans ?_
        rw [silent count before (Nat.lt_succ_self _) other found, Option.none_or]
        exact earlier

theorem filterMap_take_eq_nil {past : List α} {count : Nat}
    (silent : ∀ before, before < count → ∀ other, past[before]? = some other → tells other = none) :
    (past.take count).filterMap tells = [] := by
  rw [List.filterMap_eq_nil_iff]
  intro other member
  obtain ⟨before, inside, rfl⟩ := List.getElem_of_mem member
  rw [List.length_take, Nat.lt_min] at inside
  exact silent before inside.1 _ (by rw [List.getElem_take, List.getElem?_eq_getElem inside.2])

end

/-! ## Actions with what became of them -/

/-- Actions with what became of them, as far as there are steps. -/
def Action.withOutcomes (actions : List Action) (steps : List Step) : List (Action × Outcome) :=
  actions.zip (steps.map (·.outcome))

@[simp] theorem Action.withOutcomes_nil (actions : List Action) : withOutcomes actions [] = [] := List.zip_nil_right

@[simp] theorem Action.withOutcomes_cons (action : Action) (rest : List Action) (step : Step) (steps : List Step) :
    withOutcomes (action :: rest) (step :: steps) = (action, step.outcome) :: withOutcomes rest steps := rfl

theorem Action.withOutcomes_take (actions : List Action) (steps : List Step) (count : Nat) :
    withOutcomes actions (steps.take count) = (withOutcomes actions steps).take count := by
  induction actions generalizing steps count with
  | nil => simp [withOutcomes]
  | cons action rest ih =>
    cases steps with
    | nil => simp
    | cons step steps =>
      cases count with
      | zero => rfl
      | succ count => rw [List.take_succ_cons, withOutcomes_cons, withOutcomes_cons, ih, List.take_succ_cons]

theorem Action.getElem?_withOutcomes {actions : List Action} {steps : List Step} {place : Nat} {action : Action}
    {outcome : Outcome} :
    (withOutcomes actions steps)[place]? = some (action, outcome) ↔
      actions[place]? = some action ∧ ∃ step, steps[place]? = some step ∧ step.outcome = outcome := by
  rw [withOutcomes, List.getElem?_zip_eq_some, List.getElem?_map, Option.map_eq_some_iff]

theorem Dispatched.result_eq_ok {dispatched : Dispatched ε} (passed : dispatched.outcome ≠ .failed) :
    dispatched.2 = .ok dispatched.outcome := by
  obtain ⟨action, result⟩ := dispatched
  cases result with
  | ok outcome => rfl
  | error fault => exact absurd rfl passed

/-- Each dispatch adds to the actions that the property speaks of, and nothing else breaks it. -/
structure Performer.Unfolds (performer : Performer σ ε) (property : List (Action × Outcome) → σ → Prop) : Prop where
  dispatch : ∀ {past action state}, property past state →
    let dispatched := performer.dispatch action state
    property (past ++ [(action, Dispatched.outcome (action, dispatched.1))]) dispatched.2
  pause : ∀ {past state}, property past state → property past (performer.pause state)
  notice : ∀ notice {past state}, property past state → property past (performer.notice notice state)

namespace Performer.Unfolds

variable {performer : Performer σ ε} {property : List (Action × Outcome) → σ → Prop} {past : List (Action × Outcome)}
  {state : σ}

theorem perform (unfolds : performer.Unfolds property) (index : Nat) (action : Action) (holds : property past state) :
    let performed := performer.perform index action state
    property (past ++ [(action, performed.1)]) performed.2 := by
  let begun := performer.notice (.dispatching index action) state
  have dispatched : property (past ++ [(action, Dispatched.outcome (action, (performer.dispatch action begun).1))]) _ :=
    unfolds.dispatch (unfolds.notice _ holds)
  unfold Performer.perform
  dsimp only
  rcases performed : performer.dispatch action begun with ⟨result, after⟩
  rw [performed] at dispatched
  cases result with
  | ok outcome => exact dispatched
  | error fault => exact unfolds.notice (.failed index action fault) dispatched

theorem drained (unfolds : performer.Unfolds property) (actions rest : List Action) (index moves : Nat)
    (holds : property past state) :
    let drained := Cursor.drained performer actions moves (Cursor.resume performer index .running state rest)
    property (past ++ Action.withOutcomes rest drained.1) drained.2.state := by
  -- on the actions ahead, each of which adds to the past of those after it
  induction rest generalizing index moves state past with
  | nil => simpa [Cursor.drained, Cursor.resume, Cursor.finish, Phase.move] using holds
  | cons action rest ih =>
    have performed := unfolds.perform index action holds
    rcases result : performer.perform index action state with ⟨outcome, after⟩
    rw [result] at performed
    dsimp only at performed
    rw [Cursor.resume, result, Cursor.drained]
    cases moves with
    | zero => simpa [Cursor.drain] using performed
    | succ moves =>
      simp only [Cursor.drain_succ, Cursor.next]
      by_cases ends : outcome = .terminated
      · simpa [ends, Cursor.finish, Phase.move, Cursor.drained] using performed
      · have later := ih (index + 1) moves (unfolds.pause performed)
        simpa [ends] using later

theorem drain (unfolds : performer.Unfolds property) (actions : List Action) (moves : Nat)
    (holds : property past state) :
    let drained := Cursor.drain performer actions moves .fresh .idle state
    property (past ++ Action.withOutcomes actions drained.1) drained.2.state := by
  cases moves with
  | zero => simpa [Cursor.drain] using holds
  | succ moves => exact unfolds.drained actions actions 0 moves holds

theorem run (unfolds : performer.Unfolds property) (workflow : Workflow) (holds : property past state) :
    let ran := performer.run workflow state
    property (past ++ Action.withOutcomes workflow.actions ran.1.steps) ran.2.2 :=
  unfolds.notice _ (unfolds.drain workflow.actions (workflow.actions.length + 1) (unfolds.notice _ holds))

end Performer.Unfolds

/-! ## The steps of a run and of its moves -/

namespace Performer

variable (performer : Performer σ ε)

theorem length_steps_walk_le (index : Nat) (actions : List Action) (state : σ) :
    (performer.walk index actions state).1.length ≤ actions.length := by
  induction actions generalizing index state with
  | nil => exact Nat.le_refl _
  | cons action rest ih =>
    rcases performed : performer.perform index action state with ⟨outcome, after⟩
    by_cases ends : outcome = .terminated
    · subst ends
      rw [walk_cons_of_ends performer performed]
      exact Nat.succ_le_succ (Nat.zero_le _)
    · rw [walk_cons performer performed ends]
      exact Nat.succ_le_succ (ih (index + 1) _)

theorem map_snd_of_run (workflow : Workflow) (state : σ) :
    let steps := (performer.run workflow state).1.steps
    (Action.withOutcomes workflow.actions steps).map (·.2) = steps.map (·.outcome) := by
  intro steps
  apply List.map_snd_zip
  have walked : steps = _ := congrArg (·.1.steps) (performer.run_eq_walk workflow state)
  rw [List.length_map, walked]
  exact performer.length_steps_walk_le 0 workflow.actions _

theorem steps_walk_take (index count : Nat) (actions : List Action) (state : σ) :
    (performer.walk index (actions.take count) state).1 = (performer.walk index actions state).1.take count := by
  induction actions generalizing index count state with
  | nil => simp [walk]
  | cons action rest ih =>
    cases count with
    | zero => rfl
    | succ count =>
      rcases performed : performer.perform index action state with ⟨outcome, after⟩
      rw [List.take_succ_cons]
      by_cases ends : outcome = .terminated
      · subst ends
        rw [walk_cons_of_ends performer performed, walk_cons_of_ends performer performed]
        simp
      · rw [walk_cons performer performed ends, walk_cons performer performed ends, ih, List.take_succ_cons]

theorem steps_drain (workflow : Workflow) (moves : Nat) (state : σ) :
    let begun := performer.notice (.started workflow.actions.length) state
    (Cursor.drain performer workflow.actions moves .fresh .idle begun).1 =
      (performer.run workflow state).1.steps.take moves := by
  intro begun
  rw [(performer.drain_eq_walk_take workflow.actions moves begun).1, performer.run_eq_walk, steps_walk_take]

def midway (workflow : Workflow) (count : Nat) (state : σ) : σ :=
  let begun := performer.notice (.started workflow.actions.length) state
  (Cursor.drain performer workflow.actions count .fresh .idle begun).2.state

variable {performer} {property : List (Action × Outcome) → σ → Prop} {past : List (Action × Outcome)} {state : σ}

theorem Unfolds.midway (unfolds : performer.Unfolds property) (workflow : Workflow) (count : Nat)
    (holds : property past state) :
    property (past ++ (Action.withOutcomes workflow.actions (performer.run workflow state).1.steps).take count)
      (performer.midway workflow count state) := by
  have drained := unfolds.drain workflow.actions count (unfolds.notice (.started workflow.actions.length) holds)
  have steps := performer.steps_drain workflow count state
  dsimp only at drained steps
  rwa [steps, Action.withOutcomes_take] at drained

end Performer

end Pushbutton
