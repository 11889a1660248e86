import Pushbutton.Proofs.Run.Paired

/-! What a run calls, and when: each action is dispatched once and in order up to the one that ends the
run, with a pause between two of them, whatever dispatching does. -/

set_option autoImplicit false

namespace Pushbutton

/-- What a run is given from outside: the ways to dispatch an action, to sleep and to report. -/
structure Means (σ ε : Type) where
  dispatch : Action → σ → Except ε Outcome × σ
  sleep : Seconds → σ → σ
  notice : Notice ε → σ → σ

inductive Made (ε : Type) where
  | dispatched (action : Action) (result : Except ε Outcome)
  | slept (delay : Seconds)

variable {σ τ ε : Type}

namespace Means

def performer (means : Means σ ε) (delay : Seconds) : Performer σ ε where
  dispatch := means.dispatch
  pause := means.sleep delay
  notice := means.notice

def watched (means : Means σ ε) : Means (σ × List (Made ε)) ε where
  dispatch action state :=
    let dispatched := means.dispatch action state.1
    (dispatched.1, dispatched.2, state.2 ++ [.dispatched action dispatched.1])
  sleep delay state := (means.sleep delay state.1, state.2 ++ [.slept delay])
  notice notice state := (means.notice notice state.1, state.2)

end Means

theorem Stage.performerOf_eq (modify : (Stage → Stage) → σ → σ)
    (dispatch : Action → σ → Except Fault Outcome × σ) (delay : Seconds) :
    performerOf modify dispatch delay =
      Means.performer
        ⟨dispatch, fun delay => modify fun stage => { stage with events := stage.events ++ [.slept delay] },
          fun notice => modify fun stage => { stage with log := stage.log ++ [noticeEntry notice] }⟩
        delay := rfl

/-! ## Runs seen through a projection -/

/-- The one performer does on a part of the state what the other does. -/
structure Performer.Over (project : τ → σ) (fine : Performer τ ε) (coarse : Performer σ ε) : Prop where
  dispatch : ∀ action state,
    (fine.dispatch action state).map id project = coarse.dispatch action (project state)
  pause : ∀ state, project (fine.pause state) = coarse.pause (project state)
  notice : ∀ notice state, project (fine.notice notice state) = coarse.notice notice (project state)

def Moved.map (project : τ → σ) (moved : Moved τ) : Moved σ :=
  ⟨moved.answer, moved.cursor, moved.phase, project moved.state⟩

theorem Moved.Paired.map_eq {project : τ → σ} {actions : List Action} {moved : Moved τ} {other : Moved σ}
    (paired : Moved.Paired (fun _ state seen => project state = seen) actions moved other) :
    moved.map project = other := by
  obtain ⟨answer, cursor, phase, state⟩ := moved
  obtain ⟨_, _, _, seen⟩ := other
  obtain ⟨rfl, rfl, rfl, rfl⟩ := paired
  rfl

namespace Performer.Over

variable {project : τ → σ} {fine : Performer τ ε} {coarse : Performer σ ε}

theorem paired (covers : Over project fine coarse) :
    Paired (fun _ state seen => project state = seen) fine coarse where
  dispatch := by
    rintro action rest state _ rfl
    rw [← covers.dispatch]
    exact ⟨rfl, rfl⟩
  pause := by
    rintro _ state _ rfl
    exact covers.pause state
  notice := by
    rintro notice _ state _ rfl
    exact covers.notice notice state

theorem next (covers : Over project fine coarse) (actions : List Action) (phase : Phase) (state : τ)
    (cursor : Cursor) :
    (cursor.next fine actions phase state).map project =
      cursor.next coarse actions phase (project state) :=
  (covers.paired.next actions cursor phase rfl fun _ _ => rfl).map_eq

theorem drain (covers : Over project fine coarse) (actions : List Action) (moves : Nat) (cursor : Cursor)
    (phase : Phase) (state : τ) :
    (Cursor.drain fine actions moves cursor phase state).map id (Moved.map project) =
      Cursor.drain coarse actions moves cursor phase (project state) := by
  obtain ⟨steps, last⟩ := covers.paired.drain actions moves cursor phase rfl fun _ _ => rfl
  exact Prod.ext steps last.map_eq

theorem run (covers : Over project fine coarse) (workflow : Workflow) (state : τ) :
    (fine.run workflow state).map id (Prod.map id project) = coarse.run workflow (project state) := by
  obtain ⟨report, phase, last⟩ := covers.paired.run workflow rfl
  exact Prod.ext report (Prod.ext phase last)

end Performer.Over

theorem Means.watched_over (means : Means σ ε) (delay : Seconds) :
    Performer.Over Prod.fst (means.watched.performer delay) (means.performer delay) :=
  ⟨fun _ _ => rfl, fun _ => rfl, fun _ _ => rfl⟩

/-! ## Traces -/

abbrev Dispatched (ε : Type) := Action × Except ε Outcome

namespace Dispatched

def outcome (dispatched : Dispatched ε) : Outcome :=
  match dispatched.2 with
  | .ok outcome => outcome
  | .error _ => .failed

def toStep (index : Nat) (dispatched : Dispatched ε) : Step :=
  ⟨index, dispatched.1.id, dispatched.1.kind, dispatched.outcome⟩

/-- The calls around a dispatch: a pause follows unless it ended the run. -/
def calls (delay : Seconds) (dispatched : Dispatched ε) : List (Made ε) :=
  .dispatched dispatched.1 dispatched.2 ::
    if dispatched.outcome = .terminated then [] else [.slept delay]

end Dispatched

/-- Actions are played one after another to their end, or up to one that ends the run. -/
inductive Played : List Action → List (Dispatched ε) → Prop where
  | nil : Played [] []
  | last {action : Action} {result : Except ε Outcome} (rest : List Action) :
      Dispatched.outcome (action, result) = .terminated → Played (action :: rest) [(action, result)]
  | next {action : Action} {result : Except ε Outcome} {rest : List Action} {later : List (Dispatched ε)} :
      Dispatched.outcome (action, result) ≠ .terminated → Played rest later →
      Played (action :: rest) ((action, result) :: later)

namespace Played

variable {actions : List Action} {dispatches : List (Dispatched ε)}

theorem actions_eq (played : Played actions dispatches) :
    dispatches.map (·.1) = actions.take dispatches.length := by
  induction played with
  | nil => rfl
  | last rest ends => rfl
  | next goesOn _ ih => simp [ih]

theorem goes_on (played : Played actions dispatches) :
    ∀ earlier ∈ dispatches.dropLast, earlier.outcome ≠ .terminated := by
  induction played with
  | nil => simp
  | last rest ends => simp
  | @next action result rest later goesOn played ih =>
    -- this dispatch is the last one unless another follows
    cases later with
    | nil => simp
    | cons second later =>
      rw [List.dropLast_cons_cons, List.forall_mem_cons]
      exact ⟨goesOn, ih⟩

theorem stops (played : Played actions dispatches) :
    dispatches.length = actions.length ∨ ∃ last ∈ dispatches.getLast?, last.outcome = .terminated := by
  induction played with
  | nil => exact .inl rfl
  | @last action result rest ends => exact .inr ⟨(action, result), rfl, ends⟩
  | @next action result rest later goesOn played ih =>
    rcases ih with whole | ⟨last, found, ends⟩
    · exact .inl (congrArg (· + 1) whole)
    · refine .inr ⟨last, ?_, ends⟩
      cases later with
      | nil => cases found
      | cons second later => rw [List.getLast?_cons_cons]; exact found

end Played

theorem Means.perform_watched (means : Means σ ε) (delay : Seconds) (index : Nat) (action : Action) (state : σ)
    (made : List (Made ε)) :
    ∃ result after, (means.watched.performer delay).perform index action (state, made) =
      (Dispatched.outcome (action, result), after, made ++ [.dispatched action result]) := by
  simp only [Performer.perform, performer, watched]
  rcases means.dispatch action (means.notice (.dispatching index action) state) with ⟨result, after⟩
  cases result with
  | ok outcome => exact ⟨.ok outcome, after, rfl⟩
  | error fault => exact ⟨.error fault, means.notice (.failed index action fault) after, rfl⟩

def Cursor.drained (performer : Performer σ ε) (actions : List Action) (moves : Nat) (moved : Moved σ) :
    List Step × Moved σ :=
  match moved.answer with
  | .step step =>
    let (steps, last) := drain performer actions moves moved.cursor moved.phase moved.state
    (step :: steps, last)
  | .finished | .refused _ => ([], moved)

theorem Cursor.drain_succ (performer : Performer σ ε) (actions : List Action) (moves : Nat) (cursor : Cursor)
    (phase : Phase) (state : σ) :
    cursor.drain performer actions (moves + 1) phase state =
      drained performer actions moves (cursor.next performer actions phase state) := rfl

theorem Means.played_of_resume (means : Means σ ε) (delay : Seconds) (actions rest : List Action)
    (index moves : Nat) (state : σ) (made : List (Made ε)) (enough : rest.length ≤ moves) :
    ∃ dispatches after, Played rest dispatches ∧
      Cursor.drained (means.watched.performer delay) actions moves
        (Cursor.resume (means.watched.performer delay) index .running (state, made) rest) =
      (dispatches.mapIdx fun offset => Dispatched.toStep (index + offset),
        ⟨.finished, .ended, .idle, after, made ++ dispatches.flatMap (Dispatched.calls delay)⟩) := by
  -- induction on the actions ahead, with a move for each of them and one for the end
  induction rest generalizing index moves state made with
  | nil => exact ⟨[], state, .nil, by simp [Cursor.resume, Cursor.finish, Phase.move, Cursor.drained]⟩
  | cons action rest ih =>
    -- a move is left for this action, since there is one for each
    have positive : moves ≠ 0 := Nat.ne_of_gt (Nat.lt_of_lt_of_le rest.length.succ_pos enough)
    obtain ⟨moves, rfl⟩ := Nat.exists_eq_add_one_of_ne_zero positive
    obtain ⟨result, after, performed⟩ := means.perform_watched delay index action state made
    rw [Cursor.resume, performed, Cursor.drained]
    simp only [Cursor.drain_succ, Cursor.next]
    by_cases ends : Dispatched.outcome (action, result) = .terminated
    · refine ⟨[(action, result)], after, .last rest ends, ?_⟩
      simp [Cursor.drained, Cursor.finish, Phase.move, Dispatched.toStep, Dispatched.calls, ends]
    · obtain ⟨later, final, played, drained⟩ := ih (index + 1) moves (means.sleep delay after)
        (made ++ [.dispatched action result] ++ [.slept delay]) (Nat.le_of_succ_le_succ enough)
      refine ⟨(action, result) :: later, final, .next ends played, ?_⟩
      -- the pause after this action belongs to the move to the next one
      have pauses : (means.watched.performer delay).pause (after, made ++ [.dispatched action result]) =
        (means.sleep delay after, made ++ [.dispatched action result] ++ [.slept delay]) := rfl
      rw [if_neg ends, pauses, drained]
      simp [Dispatched.toStep, Dispatched.calls, ends, Nat.add_assoc, Nat.add_comm 1]

theorem Means.drain_watched (means : Means σ ε) (delay : Seconds) (actions : List Action) (state : σ) :
    ∃ dispatches after, Played actions dispatches ∧
      Cursor.drain (means.watched.performer delay) actions (actions.length + 1) .fresh .idle (state, []) =
        (dispatches.mapIdx Dispatched.toStep,
          ⟨.finished, .ended, .idle, after, dispatches.flatMap (Dispatched.calls delay)⟩) := by
  obtain ⟨dispatches, after, played, drained⟩ :=
    means.played_of_resume delay actions actions 0 actions.length state [] (Nat.le_refl _)
  refine ⟨dispatches, after, played, ?_⟩
  simp only [Nat.zero_add, List.nil_append] at drained
  rw [Cursor.drain_succ]
  exact drained

/-- A run that is begun is never refused on its way, whatever dispatching does. -/
theorem Means.answer_drain (means : Means σ ε) (delay : Seconds) (actions : List Action) (state : σ) :
    (Cursor.drain (means.performer delay) actions (actions.length + 1) .fresh .idle state).2.answer =
      .finished := by
  obtain ⟨dispatches, after, _, drained⟩ := means.drain_watched delay actions state
  have drops := (means.watched_over delay).drain actions (actions.length + 1) .fresh .idle (state, [])
  rw [drained] at drops
  rw [← drops]
  rfl

theorem Dispatched.terminated_iff (dispatches : List (Dispatched ε)) :
    Report.terminated ⟨dispatches.mapIdx toStep⟩ = true ↔
      ∃ dispatched ∈ dispatches, dispatched.outcome = .terminated := by
  simp only [Report.terminated, List.any_eq_true, beq_iff_eq]
  constructor
  · rintro ⟨step, member, ends⟩
    obtain ⟨index, inside, rfl⟩ := List.mem_mapIdx.mp member
    exact ⟨dispatches[index], List.getElem_mem inside, ends⟩
  · rintro ⟨dispatched, member, ends⟩
    obtain ⟨index, inside, rfl⟩ := List.mem_iff_getElem.mp member
    exact ⟨toStep index dispatches[index], List.mem_mapIdx.mpr ⟨index, inside, rfl⟩, ends⟩

/-- The trace of a run is exact, whatever dispatching and sleeping do with the state. The actions
dispatched are the first ones of the workflow, each once and in order, up to the one that ends the run or to
the last; a pause of the delay follows each but the one that ends the run; and the report has their steps.
The run comes to its end from an idle phase to an idle phase. -/
theorem Means.run_exact (means : Means σ ε) (delay : Seconds) (workflow : Workflow) (state : σ) :
    ∃ (dispatches : List (Dispatched ε)) (after : σ),
      (means.watched.performer delay).run workflow (state, []) =
        (⟨dispatches.mapIdx Dispatched.toStep⟩, .idle, after, dispatches.flatMap (Dispatched.calls delay)) ∧
      (means.performer delay).run workflow state = (⟨dispatches.mapIdx Dispatched.toStep⟩, .idle, after) ∧
      (Cursor.drain (means.performer delay) workflow.actions (workflow.actions.length + 1) .fresh .idle
        (means.notice (.started workflow.actions.length) state)).2.answer = .finished ∧
      dispatches.map (·.1) = workflow.actions.take dispatches.length ∧
      (∀ earlier ∈ dispatches.dropLast, earlier.outcome ≠ .terminated) ∧
      (dispatches.length = workflow.actions.length ∨
        ∃ last ∈ dispatches.getLast?, last.outcome = .terminated) ∧
      (Report.terminated ⟨dispatches.mapIdx Dispatched.toStep⟩ = true ↔
        ∃ dispatched ∈ dispatches, dispatched.outcome = .terminated) := by
  have covers := means.watched_over delay
  obtain ⟨dispatches, last, played, drained⟩ := means.drain_watched delay workflow.actions
    (means.notice (.started workflow.actions.length) state)
  have drops := covers.drain workflow.actions (workflow.actions.length + 1) .fresh .idle
    (means.notice (.started workflow.actions.length) state, [])
  have ran : (means.watched.performer delay).run workflow (state, []) =
      (⟨dispatches.mapIdx Dispatched.toStep⟩, .idle,
        means.notice
          (.finished dispatches.length (Report.terminated ⟨dispatches.mapIdx Dispatched.toStep⟩)) last,
        dispatches.flatMap (Dispatched.calls delay)) := by
    have started : (means.watched.performer delay).notice (.started workflow.actions.length) (state, []) =
      (means.notice (.started workflow.actions.length) state, []) := rfl
    rw [Performer.run, started, drained]
    simp only [List.length_mapIdx]
    rfl
  have seen := covers.run workflow (state, [])
  rw [ran] at seen
  rw [drained] at drops
  refine ⟨dispatches, _, ran, seen.symm, ?_, played.actions_eq, played.goes_on, played.stops,
    Dispatched.terminated_iff dispatches⟩
  rw [← drops]
  rfl

end Pushbutton
