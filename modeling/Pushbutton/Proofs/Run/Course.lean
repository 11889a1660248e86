import Pushbutton.Proofs.Run.Performed
import Pushbutton.Proofs.Run.Overlap
import Pushbutton.Proofs.Run.Unfolding

/-! The course of a run in which no action fails. It goes through the actions up to the first that reloads the page,
and each of them does what it asks for. -/

set_option autoImplicit false

namespace Pushbutton

namespace Action

def throughReload : List Action → List Action
  | [] => []
  | action :: rest => action :: if action.kind = .refreshPage then [] else throughReload rest

theorem map_fst_withOutcomes (actions : List Action) (steps : List Step) :
    (withOutcomes actions steps).map (·.1) = actions.take steps.length := by
  induction actions generalizing steps with
  | nil => simp [withOutcomes]
  | cons action rest ih =>
    cases steps with
    | nil => simp
    | cons step steps => simp [ih]

end Action

def Step.Unfailing (steps : List Step) : Prop := ∀ step ∈ steps, step.outcome ≠ .failed

namespace Stage

variable {delay : Seconds} {stage : Stage}

/-- Without a fault, only a reload ends a run. -/
theorem terminated_iff_of_perform {index : Nat} {action : Action} {outcome : Outcome} {after : Stage}
    (performed : (performer delay).perform index action stage = (outcome, after)) (passed : outcome ≠ .failed) :
    outcome = .terminated ↔ action.kind = .refreshPage := by
  unfold Performer.perform at performed
  dsimp only at performed
  split at performed
  · next came later dispatched =>
    cases performed
    have result := congrArg Prod.fst dispatched
    rw [((action.settled_dispatch rfl).value _ result).1]
    exact action.outcome_eq_terminated_iff _
  · cases performed
    exact absurd rfl passed

theorem take_length_steps {index : Nat} {actions : List Action}
    (unfailing : Step.Unfailing ((performer delay).walk index actions stage).1) :
    actions.take ((performer delay).walk index actions stage).1.length = Action.throughReload actions := by
  induction actions generalizing index stage with
  | nil => rfl
  | cons action rest ih =>
    rcases performed : (performer delay).perform index action stage with ⟨outcome, after⟩
    by_cases ends : outcome = .terminated
    · subst ends
      rw [Performer.walk_cons_of_ends _ performed] at unfailing ⊢
      rw [Action.throughReload, if_pos ((terminated_iff_of_perform performed nofun).mp rfl)]
      rfl
    · rw [Performer.walk_cons _ performed ends] at unfailing ⊢
      obtain ⟨passed, others⟩ := List.forall_mem_cons.mp unfailing
      have stays := mt (terminated_iff_of_perform performed passed).mpr ends
      rw [Action.throughReload, if_neg stays, List.length_cons, List.take_succ_cons, ih others]

variable {workflow : Workflow} {report : Report} {last : Stage}

theorem steps_of_run (ran : (Stage.run delay workflow).perform stage = (.ok report, last)) :
    ((performer delay).run workflow stage).1 = report ∧ ((performer delay).run workflow stage).2.2 = last :=
  ⟨Except.ok.inj (congrArg Prod.fst ran), congrArg Prod.snd ran⟩

/-- A run in which no action fails dispatches those up to the first reload. -/
theorem map_fst_of_run (ran : (Stage.run delay workflow).perform stage = (.ok report, last))
    (unfailing : Step.Unfailing report.steps) :
    (Action.withOutcomes workflow.actions report.steps).map (·.1) = Action.throughReload workflow.actions := by
  obtain ⟨same, -⟩ := steps_of_run ran
  rw [Performer.run_eq_walk] at same
  subst same
  rw [Action.map_fst_withOutcomes]
  exact take_length_steps unfailing

theorem passed_of_unfailing {actions : List Action} {steps : List Step} (unfailing : Step.Unfailing steps) :
    ∀ became ∈ Action.withOutcomes actions steps, became.2 ≠ .failed := by
  intro became member
  obtain ⟨step, inside, same⟩ := List.mem_map.mp (List.of_mem_zip (Prod.eta became ▸ member)).2
  exact same ▸ unfailing step inside

/-- What each action that does not fail keeps of a property that speaks of the actions so far, and not of what is told
of the calls. -/
structure Turns (property : List Action → Stage → Prop) : Prop where
  dispatch : ∀ {acted action before after}, property acted before →
    Used (action.request.items before.backed before.store.items before.answer) (before.changed action.request) after →
    property (acted ++ [action]) after
  told : ∀ {acted stage} events log, property acted stage → property acted { stage with events, log }

namespace Turns

variable {property : List Action → Stage → Prop} {acted : List Action}

theorem unfolds (turns : Turns property) (delay : Seconds) :
    (performer delay).Unfolds fun past stage =>
      (∀ became ∈ past, became.2 ≠ .failed) → property (past.map (·.1)) stage where
  dispatch := by
    intro past action stage holds dispatched passed
    obtain ⟨others, here⟩ := List.forall_mem_append.mp passed
    have result := Dispatched.result_eq_ok (here _ (List.mem_singleton_self _))
    rw [List.map_append]
    exact turns.dispatch (holds others) (Action.used_of_dispatch (Prod.ext result rfl))
  pause holds passed := turns.told _ _ (holds passed)
  notice _ _ _ holds passed := turns.told _ _ (holds passed)

theorem run (turns : Turns property) (ran : (Stage.run delay workflow).perform stage = (.ok report, last))
    (unfailing : Step.Unfailing report.steps) (start : property [] stage) :
    property (Action.throughReload workflow.actions) last := by
  obtain ⟨same, after⟩ := steps_of_run ran
  have begun : (∀ became ∈ ([] : List (Action × Outcome)), became.2 ≠ .failed) → property [] stage := fun _ => start
  have holds := (turns.unfolds delay).run workflow begun
  dsimp only at holds
  rw [same, after, List.nil_append, map_fst_of_run ran unfailing] at holds
  exact holds (passed_of_unfailing unfailing)

theorem midway (turns : Turns property) (ran : (Stage.run delay workflow).perform stage = (.ok report, last))
    (unfailing : Step.Unfailing report.steps) (start : property [] stage) (count : Nat) :
    property ((Action.throughReload workflow.actions).take count) ((performer delay).midway workflow count stage) := by
  have begun : (∀ became ∈ ([] : List (Action × Outcome)), became.2 ≠ .failed) → property [] stage := fun _ => start
  have holds := (turns.unfolds delay).midway workflow count begun
  rw [(steps_of_run ran).1, List.nil_append, List.map_take, map_fst_of_run ran unfailing] at holds
  exact holds fun became member => passed_of_unfailing unfailing became (List.mem_of_mem_take member)

end Turns

/-! ## Runs without faults -/

theorem due_eq_throughReload (controlled : Bool) (actions : List Action) :
    Action.due controlled actions = Action.throughReload actions := by
  induction actions with
  | nil => rfl
  | cons action rest ih =>
    rw [Action.due, Action.throughReload, ih]
    simp only [action.outcome_eq_terminated_iff]

theorem steps_eq (ran : (Stage.run delay workflow).perform stage = (.ok report, last))
    (unfailing : Step.Unfailing report.steps) :
    report.steps = (Action.throughReload workflow.actions).mapIdx (Action.toStep stage.control.isSome) := by
  obtain ⟨attempts, after, observed, same, -⟩ := run_attempted delay workflow stage
  cases Except.ok.inj (congrArg Prod.fst (ran.symm.trans same))
  have calm : ∀ attempt ∈ ((observing.performer delay).run workflow (stage, [])).2.2.2, attempt.failed = false := by
    rw [observed]
    intro attempt member
    obtain ⟨index, inside, rfl⟩ := List.mem_iff_getElem.mp member
    have step : attempts[index].toStep stage.control.isSome index ∈
        attempts.mapIdx (Attempt.toStep stage.control.isSome) := List.mem_mapIdx.mpr ⟨index, inside, rfl⟩
    have passed := unfailing _ step
    rw [Bool.eq_false_iff]
    exact fun failed => passed (if_pos failed)
  obtain ⟨_, due⟩ := run_due delay workflow stage calm
  rw [due_eq_throughReload] at due
  exact congrArg Report.steps (Except.ok.inj (congrArg Prod.fst (same.symm.trans due)))

theorem steady_of_run {keys : Text → Prop} (ran : (Stage.run delay workflow).perform stage = (.ok report, last))
    (unfailing : Step.Unfailing report.steps)
    (apart : ∀ action ∈ workflow.actions, ∀ key, action.Writes key → ¬ keys key) (shown : ¬ keys Output.textKey)
    (pictured : ¬ keys Output.imageKey) (ready : stage.Ready) : Steady keys stage last := by
  obtain ⟨rfl, rfl⟩ := steps_of_run ran
  have unfolds : (performer delay).Unfolds fun past after =>
      (∀ became ∈ past, became.2 ≠ .failed ∧ ∀ key, became.1.Writes key → ¬ keys key) → Steady keys stage after := by
    refine ⟨fun {past action before} holds passed => ?_, fun holds passed => ?_, fun _ _ _ holds passed => ?_⟩
    · obtain ⟨earlier, here⟩ := List.forall_mem_append.mp passed
      obtain ⟨went, spared⟩ := here _ (List.mem_singleton_self _)
      have result : (action.dispatch.perform before).1 = .ok _ := Dispatched.result_eq_ok went
      apply Action.keeps_dispatch spared shown pictured before (holds earlier)
      rw [result]
      nofun
    · exact (holds passed).of_unmoved ⟨rfl, rfl, rfl⟩
    · exact (holds passed).of_unmoved ⟨rfl, rfl, rfl⟩
  have begun : (∀ became ∈ ([] : List (Action × Outcome)),
      became.2 ≠ .failed ∧ ∀ key, became.1.Writes key → ¬ keys key) → Steady keys stage stage := fun _ => ready.steady
  refine unfolds.run workflow begun fun became member => ⟨?_, apart _ (List.of_mem_zip member).1⟩
  exact passed_of_unfailing unfailing became member

/-- A run over actions whose texts the store takes fails at none of them, and another one could follow. -/
theorem Fluent.run (fluent : stage.Fluent) (delay : Seconds)
    (given : ∀ action ∈ workflow.actions, action.params.AllTexts stage.store.Fits) :
    ∃ report last, (Stage.run delay workflow).perform stage = (.ok report, last) ∧ Step.Unfailing report.steps ∧
      last.Fluent := by
  have unfolds : (performer delay).Unfolds fun past after =>
      (∀ became ∈ past, became.1.params.AllTexts stage.store.Fits) →
        after.Fluent ∧ after.store.path? = stage.store.path? ∧ ∀ became ∈ past, became.2 ≠ .failed := by
    refine ⟨fun {past action before} holds given => ?_, fun holds given => ?_, fun _ _ _ holds given => ?_⟩
    · obtain ⟨earlier, here⟩ := List.forall_mem_append.mp given
      obtain ⟨fluent, place, passed⟩ := holds earlier
      have fits : action.params.AllTexts before.store.Fits :=
        fun field text held => (here _ (List.mem_singleton_self _) field text held).of_path? place
      obtain ⟨outcome, after, dispatched, used⟩ := Action.exists_dispatch (fluent.able fits)
      have came := ((action.settled_dispatch rfl).value _ (congrArg Prod.fst dispatched)).1
      have same : (performer delay).dispatch action before = (.ok outcome, after) := dispatched
      simp only [same, List.forall_mem_append]
      refine ⟨fluent.used fits used, used.place.trans place, passed, List.forall_mem_singleton.mpr ?_⟩
      exact came ▸ action.outcome_ne_failed _
    · obtain ⟨fluent, rest⟩ := holds given
      exact ⟨⟨fluent.ready.of_eq rfl rfl, fluent.items, fluent.given⟩, rest⟩
    · obtain ⟨fluent, rest⟩ := holds given
      exact ⟨⟨fluent.ready.of_eq rfl rfl, fluent.items, fluent.given⟩, rest⟩
  have begun : (∀ became ∈ ([] : List (Action × Outcome)), became.1.params.AllTexts stage.store.Fits) →
      stage.Fluent ∧ stage.store.path? = stage.store.path? ∧
        ∀ became ∈ ([] : List (Action × Outcome)), became.2 ≠ .failed := fun _ => ⟨fluent, rfl, List.forall_mem_nil _⟩
  obtain ⟨fluent, -, passed⟩ := unfolds.run workflow begun fun became member => given _ (List.of_mem_zip member).1
  rw [List.nil_append] at passed
  refine ⟨_, _, rfl, fun step member => ?_, fluent⟩
  have all := (performer delay).map_snd_of_run workflow stage
  obtain ⟨became, inside, same⟩ := List.mem_map.mp (all ▸ List.mem_map_of_mem member)
  exact same ▸ passed became inside

end Stage

end Pushbutton
