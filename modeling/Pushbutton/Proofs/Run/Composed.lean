import Pushbutton.Proofs.Run.Overlap
import Pushbutton.Proofs.Run.Walk

/-! Runs made up of runs. The run of two workflows in a row is that of the first and then that of the second, and a run
that is driven by hand and given up is that of its first actions. -/

set_option autoImplicit false

namespace Pushbutton

variable {σ τ ε : Type}

namespace Workflow

def followedBy (first second : Workflow) : Workflow := { first with actions := first.actions ++ second.actions }

def shortened (workflow : Workflow) (count : Nat) : Workflow :=
  { workflow with actions := workflow.actions.take count }

end Workflow

structure Ran (σ ε : Type) where
  report : Report
  made : List (Made ε)
  state : σ

structure Ran.Seen (view : σ → τ) (fine : Ran σ ε) (coarse : Ran τ ε) : Prop where
  report : fine.report = coarse.report
  made : fine.made = coarse.made
  state : view fine.state = coarse.state

namespace Means

/-- Means that say nothing of what they do. -/
def silent (dispatch : Action → σ → Except ε Outcome × σ) (sleep : Seconds → σ → σ) : Means σ ε :=
  ⟨dispatch, sleep, fun _ state => state⟩

variable (means : Means σ ε) (delay : Seconds) (workflow : Workflow)

def ran (state : σ) : Ran σ ε :=
  let (report, _, after, made) := (means.watched.performer delay).run workflow (state, [])
  ⟨report, made, after⟩

/-- A cursor that is asked for a number of steps and then closed. -/
def driven (count : Nat) (state : σ) : Ran σ ε :=
  let drained := Cursor.drain (means.watched.performer delay) workflow.actions count .fresh .idle (state, [])
  let closed := drained.2.cursor.close drained.2.phase drained.2.state
  ⟨⟨drained.1⟩, closed.state.2, closed.state.1⟩

variable {means delay workflow}

/-- How runs are made up of others, as far as the states are seen. -/
structure Composes (means : Means σ ε) (view : σ → τ) (delay : Seconds) (first second : Workflow) (state : σ) :
    Prop where
  /-- The second run starts on the state that the first one left, and its steps are counted on. -/
  onward :
    let one := means.ran delay first state
    let two := means.ran delay second one.state
    let both := means.ran delay (first.followedBy second) state
    one.report.terminated = false →
      both.report.steps = one.report.steps ++ two.report.steps.map (Step.later first.actions.length) ∧
        both.made = one.made ++ two.made ∧ view both.state = view two.state
  /-- Nothing of the second workflow is run if the first run was ended. -/
  cut :
    let one := means.ran delay first state
    let both := means.ran delay (first.followedBy second) state
    one.report.terminated = true →
      both.report = one.report ∧ both.made = one.made ∧ view both.state = view one.state
  /-- The run of the first actions pauses once more than a cursor that was closed after them. -/
  byHand : ∀ count,
    let hand := means.driven delay first count state
    let short := means.ran delay (first.shortened count) state
    hand.report = short.report ∧
      if Step.owing count hand.report.steps then
        short.made = hand.made ++ [.slept delay] ∧ view short.state = view (means.sleep delay hand.state)
      else short.made = hand.made ∧ view short.state = view hand.state

/-! ## Silent runs -/

section

variable (dispatch : Action → σ → Except ε Outcome × σ) (sleep : Seconds → σ → σ)

theorem ran_silent (delay : Seconds) (workflow : Workflow) (state : σ) :
    (silent dispatch sleep).ran delay workflow state =
      let walked := ((silent dispatch sleep).watched.performer delay).walk 0 workflow.actions (state, [])
      ⟨⟨walked.1⟩, walked.2.2, walked.2.1⟩ := by
  rw [ran, Performer.run_eq_walk]
  rfl

/-- The second list is walked as by a run of its own, but for the places of its steps. -/
theorem walk_silent_append (delay : Seconds) (first second : List Action) (state : σ) :
    let performer := (silent dispatch sleep).watched.performer delay
    let one := performer.walk 0 first (state, [])
    let two := performer.walk 0 second (one.2.1, [])
    performer.walk 0 (first ++ second) (state, []) =
      if Report.terminated ⟨one.1⟩ then one
      else (one.1 ++ two.1.map (Step.later first.length), two.2.1, one.2.2 ++ two.2.2) := by
  intro performer one two
  have unheard (notice : Notice ε) (state : σ × List (Made ε)) : performer.notice notice state = state := rfl
  have later := Performer.walk_later unheard first.length 0 second one.2
  have calls : performer.walk 0 second one.2 = (two.1, two.2.1, one.2.2 ++ two.2.2) :=
    (silent dispatch sleep).walk_watched_append delay 0 second one.2.1 one.2.2
  rw [performer.walk_append]
  dsimp only
  rw [later, calls]

theorem composes_silent (delay : Seconds) (first second : Workflow) (state : σ) :
    (silent dispatch sleep).Composes id delay first second state := by
  have append := walk_silent_append dispatch sleep delay first.actions second.actions state
  refine ⟨fun goesOn => ?_, fun ends => ?_, fun count => ?_⟩
  · simp only [ran_silent] at goesOn ⊢
    rw [Workflow.followedBy, append, goesOn]
    exact ⟨rfl, rfl, rfl⟩
  · simp only [ran_silent] at ends ⊢
    rw [Workflow.followedBy, append, ends]
    exact ⟨rfl, rfl, rfl⟩
  · obtain ⟨steps, closed, left⟩ :=
      ((silent dispatch sleep).watched.performer delay).drain_eq_walk_take first.actions count (state, [])
    simp only [ran_silent, driven, Workflow.shortened, closed, left, steps, true_and]
    split <;> exact ⟨rfl, rfl⟩

end

/-! ## Runs that are told of -/

section

variable {view : σ → τ} {coarse : Means τ ε}

theorem ran_seen (covers : Performer.Over view (means.performer delay) (coarse.performer delay))
    (workflow : Workflow) (state : σ) :
    (means.ran delay workflow state).Seen view (coarse.ran delay workflow (view state)) := by
  have seen := covers.watched.run workflow (state, [])
  exact ⟨congrArg (·.1) seen, congrArg (·.2.2.2) seen, congrArg (·.2.2.1) seen⟩

theorem driven_seen (covers : Performer.Over view (means.performer delay) (coarse.performer delay))
    (workflow : Workflow) (count : Nat) (state : σ) :
    (means.driven delay workflow count state).Seen view (coarse.driven delay workflow count (view state)) := by
  have seen : Cursor.drain (coarse.watched.performer delay) workflow.actions count .fresh .idle (view state, []) = _ :=
    (covers.watched.drain workflow.actions count .fresh .idle (state, [])).symm
  let drained := Cursor.drain (means.watched.performer delay) workflow.actions count .fresh .idle (state, [])
  have closed := @Cursor.close_map _ _ (Prod.map view id) drained.2.cursor drained.2.phase drained.2.state
  unfold driven
  rw [seen]
  exact ⟨rfl, congrArg (·.state.2) closed, congrArg (·.state.1) closed⟩

theorem composes_of_over {dispatch : Action → τ → Except ε Outcome × τ} {sleep : Seconds → τ → τ}
    (covers : Performer.Over view (means.performer delay) ((silent dispatch sleep).performer delay))
    (first second : Workflow) (state : σ) : means.Composes view delay first second state := by
  have one := ran_seen covers first state
  have two := ran_seen covers second (means.ran delay first state).state
  have both := ran_seen covers (first.followedBy second) state
  have composes := composes_silent dispatch sleep delay first second (view state)
  rw [one.state] at two
  refine ⟨fun goesOn => ?_, fun ends => ?_, fun count => ?_⟩
  · rw [one.report, one.made, two.report, two.made, two.state, both.report, both.made, both.state]
    exact composes.onward (one.report ▸ goesOn)
  · rw [one.report, one.made, one.state, both.report, both.made, both.state]
    exact composes.cut (one.report ▸ ends)
  · have hand := driven_seen covers first count state
    have short := ran_seen covers (first.shortened count) state
    have slept : view (means.sleep delay (means.driven delay first count state).state) = _ := covers.pause _
    dsimp only
    rw [hand.report, hand.made, short.report, short.made, short.state, slept, hand.state]
    exact composes.byHand count

end

end Means

/-! ## Runs on a stage -/

namespace Stage

/-- The stage but for its log, in which a run tells how many actions it has. -/
def unlogged (stage : Stage) : Stage := { stage with log := [] }

/-- Stages that differ in no more than their logs, after the events that this one has. -/
def Onward (start first second : Stage) : Prop :=
  (∃ log, first = { second with log }) ∧ start.events <+: first.events

theorem Onward.refl (stage : Stage) : Onward stage stage stage.unlogged := ⟨⟨stage.log, rfl⟩, List.prefix_rfl⟩

open Effect

variable {start : Stage}

theorem onward_shares : Shares (Onward start) where
  store := by
    rintro _ second ⟨⟨log, rfl⟩, _⟩
    rfl
  refused := by
    rintro _ second ⟨⟨log, rfl⟩, _⟩ call
    rfl
  counted := by
    rintro _ second ⟨⟨log, rfl⟩, onward⟩
    exact ⟨⟨log, rfl⟩, onward⟩
  called := by
    rintro _ second call _ ⟨⟨log, rfl⟩, onward⟩
    exact ⟨⟨log, rfl⟩, onward.trans (List.prefix_append _ _)⟩
  logged := by
    rintro _ second entries ⟨⟨log, rfl⟩, onward⟩
    exact ⟨⟨log ++ entries, rfl⟩, onward⟩
  stored := by
    rintro _ second store ⟨⟨log, rfl⟩, onward⟩
    exact ⟨⟨log, rfl⟩, onward⟩

theorem onward_quiet {change : Stage → Stage} (quiet : Quiet change) (first second : Stage)
    (onward : Onward start first second) : Onward start (change first) (change second) := by
  obtain ⟨⟨log, rfl⟩, onward⟩ := onward
  cases quiet with
  | noted entry => exact ⟨⟨log ++ [entry], rfl⟩, onward⟩
  | slept delay => exact ⟨⟨log, rfl⟩, onward.trans (List.prefix_append _ _)⟩
  | drawn | answered | disabled | styled => exact ⟨⟨log, rfl⟩, onward⟩

theorem onward_bond : Bond (fun _ => False) (fun _ => True) (fun _ => True) (Onward start) where
  control := by
    rintro _ second ⟨⟨log, rfl⟩, _⟩
    rfl
  draws := by
    rintro _ second ⟨⟨log, rfl⟩, _⟩
    rfl
  quiet := onward_quiet
  getItem _ := (onward_shares.getItem _).unless _
  setItem _ _ := (onward_shares.setItem _ _).unless _
  setText text := by
    apply Twin.unless
    apply twin_modify_setItem
    · rintro _ second ⟨⟨log, rfl⟩, onward⟩
      exact ⟨⟨log, rfl⟩, onward⟩
    · rintro _ second ⟨⟨log, rfl⟩, _⟩
      rfl
    · exact onward_shares.setItem _ _
  setImageUrl imageUrl := by
    apply Twin.unless
    apply twin_modify_setItem
    · rintro _ second ⟨⟨log, rfl⟩, onward⟩
      exact ⟨⟨log, rfl⟩, onward⟩
    · rintro _ second ⟨⟨log, rfl⟩, _⟩
      rfl
    · exact onward_shares.setItem _ _

theorem twin_call_onward (call : Call) (onHost : call.OnHost) : call.effect.Twin (Onward start) := by
  rintro _ second ⟨⟨log, rfl⟩, onward⟩
  cases refused : second.refusal second.calls call with
  | none =>
    have same : ({ second with log } : Stage).refusal second.calls call = none := refused
    rw [perform_onHost onHost refused, perform_onHost onHost same]
    exact ⟨rfl, ⟨log, rfl⟩, onward.trans (List.prefix_append _ _)⟩
  | some fault =>
    have same : ({ second with log } : Stage).refusal second.calls call = some fault := refused
    rw [perform_onHost_refused onHost refused, perform_onHost_refused onHost same]
    exact ⟨rfl, ⟨log, rfl⟩, onward.trans (List.prefix_append _ _)⟩

theorem twin_dispatch_onward (action : Action) : action.dispatch.Twin (Onward start) :=
  leads_iff.mpr (onward_bond.dispatch (fun _ _ => trivial) (fun _ _ => trivial)
    (onward_bond.onHost fun call onHost _ => (twin_call_onward call onHost).unless _))

def actingUnlogged : Means Stage Fault :=
  .silent (fun action stage => (action.dispatch.perform stage).map id unlogged) acting.sleep

theorem acting_over_unlogged (delay : Seconds) :
    Performer.Over unlogged (acting.performer delay) (actingUnlogged.performer delay) where
  dispatch action stage := by
    obtain ⟨result, ⟨log, after⟩, _⟩ := twin_dispatch_onward action _ _ (Onward.refl stage)
    have same : (action.dispatch.perform stage).2.unlogged = (action.dispatch.perform stage.unlogged).2.unlogged := by
      rw [after]
      rfl
    exact Prod.ext result same
  pause _ := rfl
  notice _ _ := rfl

theorem events_ran (delay : Seconds) (workflow : Workflow) (stage : Stage) :
    stage.events <+: (acting.ran delay workflow stage).state.events := by
  have keeps : (acting.watched.performer delay).Keeps workflow.actions
      fun state => stage.events <+: state.1.events := by
    refine ⟨fun action _ state onward => ?_, fun state onward => ?_, fun _ _ onward => onward⟩
    · exact (twin_dispatch_onward action state.1 state.1.unlogged ⟨⟨state.1.log, rfl⟩, onward⟩).2.2
    · exact onward.trans (List.prefix_append _ _)
  exact keeps.run List.prefix_rfl

end Stage

/-- Runs compose. Whatever dispatching and sleeping do with a state, and whatever calls on a stage raise faults, the
run of two workflows in a row does what the run of the first one does and then, unless that was ended, what the run of
the second one does on the state that was left, with its steps counted on. A run that is driven by hand and closed
does what the run of its first actions does, but for the pause after the last of them. On a stage the runs are told of
in its log, of which nothing is said here. -/
theorem runs_compose (delay : Seconds) (first second : Workflow) :
    (∀ {σ ε : Type} (dispatch : Action → σ → Except ε Outcome × σ) (sleep : Seconds → σ → σ) (state : σ),
      (Means.silent dispatch sleep).Composes id delay first second state) ∧
    (∀ stage, Stage.acting.Composes Stage.unlogged delay first second stage) ∧
    (∀ workflow stage,
      let ran := Stage.acting.ran delay workflow stage
      (Stage.run delay workflow).perform stage = (.ok ran.report, ran.state) ∧
        stage.events <+: ran.state.events) := by
  refine ⟨fun dispatch sleep => Means.composes_silent dispatch sleep delay first second, fun stage => ?_,
    fun workflow stage => ?_⟩
  · exact Means.composes_of_over (Stage.acting_over_unlogged delay) first second stage
  · refine ⟨?_, Stage.events_ran delay workflow stage⟩
    have ran : (Stage.run delay workflow).perform stage =
      let ran := (Stage.acting.performer delay).run workflow stage
      (.ok ran.1, ran.2.2) := rfl
    rw [ran, ← (Stage.acting.watched_over delay).run workflow (stage, [])]
    rfl

end Pushbutton
