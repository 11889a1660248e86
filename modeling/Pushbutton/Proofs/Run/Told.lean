import Pushbutton.Proofs.Run.Composed
import Pushbutton.Proofs.Run.Skipped

/-! What the log tells of a run: the steps of its report one after another, each with what became of it. From the
entries of a run its report can be told again. -/

set_option autoImplicit false

namespace Pushbutton

theorem Kind.name_injective : Function.Injective Kind.name := by
  intro kind other same
  have found := ofName?_name other
  rw [← same, ofName?_name] at found
  exact Option.some.inj found

def Log.Entry.tellsOfRun (entry : Log.Entry) : Bool :=
  entry.logger == Stage.runLogger || entry.logger == Action.dispatchLogger

/-! ## The story of a report -/

namespace Step

def logFields (step : Step) : List (Text × Json) := [("action_id", .str step.id), ("kind", .str step.kind.name)]

/-- A step is told of before its action is dispatched, and once more if that was skipped or ended in a fault. -/
def story (step : Step) (fault : Option Fault) : List Log.Entry :=
  { severity := .debug, logger := Stage.runLogger, message := "Dispatching action",
    extra := ("index", .int step.index) :: step.logFields } ::
  match step.outcome with
  | .skipped =>
    [{ severity := .debug, logger := Action.dispatchLogger, message := "Action skipped", extra := step.logFields }]
  | .failed =>
    [{ severity := .warning, logger := Stage.runLogger, message := "Action failed",
       extra := ("index", .int step.index) :: step.logFields, exception := fault.map Fault.line }]
  | .completed | .terminated => []

def stories (steps : List Step) (faults : List (Option Fault)) : List Log.Entry :=
  (List.zipWith story steps faults).flatten

end Step

def Report.story (report : Report) (actions : Nat) (faults : List (Option Fault)) : List Log.Entry :=
  { severity := .info, logger := Stage.runLogger, message := "Run started", extra := [("actions", .int actions)] } ::
  (Step.stories report.steps faults ++
    [{ severity := .info, logger := Stage.runLogger, message := "Run finished",
       extra := [("dispatched", .int report.steps.length), ("terminated", .bool report.terminated)] }])

def Dispatched.fault? {ε : Type} (dispatched : Dispatched ε) : Option ε :=
  match dispatched.2 with
  | .ok _ => none
  | .error fault => some fault

namespace Stage

/-- Since then entries were added to the log, and these are the ones that tell of a run. -/
def Told (entries : List Log.Entry) (before after : Stage) : Prop :=
  ∃ added, after.log = before.log ++ added ∧ added.filter Log.Entry.tellsOfRun = entries

theorem Told.refl (stage : Stage) : Told [] stage stage := ⟨[], (List.append_nil _).symm, rfl⟩

theorem Told.trans {entries others : List Log.Entry} {first second third : Stage} (one : Told entries first second)
    (two : Told others second third) : Told (entries ++ others) first third := by
  obtain ⟨added, log, rfl⟩ := one
  obtain ⟨more, later, rfl⟩ := two
  refine ⟨added ++ more, ?_, List.filter_append ..⟩
  rw [later, log, List.append_assoc]

theorem Told.of_log {entries : List Log.Entry} {before after last : Stage} (told : Told entries before after)
    (same : last.log = after.log) : Told entries before last := by
  obtain ⟨added, log, rfl⟩ := told
  exact ⟨added, same.trans log, rfl⟩

theorem told_note (stage : Stage) (entry : Log.Entry) :
    Told (if entry.tellsOfRun then [entry] else []) stage { stage with log := stage.log ++ [entry] } := by
  refine ⟨[entry], rfl, ?_⟩
  cases tells : entry.tellsOfRun <;> simp [tells]

/-! ## Silence -/

section

open Effect

variable {start : Stage}

abbrev Silent (start stage : Stage) : Prop := Told [] start stage

theorem silent_modify {change : Stage → Stage} (same : ∀ stage, (change stage).log = stage.log) :
    Keeps (Silent start) (modify change : Effect Unit) :=
  keeps_modify fun stage silent => silent.of_log (same stage)

theorem silent_permit (call : Call) : Keeps (Silent start) (permit call) := by
  intro stage silent
  cases refused : stage.refusal stage.calls call with
  | none =>
    rw [perform_permit refused]
    exact silent.of_log rfl
  | some fault =>
    rw [perform_permit_refused refused]
    exact silent.of_log rfl

theorem silent_items : Keeps (Silent start) items := by
  intro stage silent
  rw [perform_items]
  refine silent.trans ⟨stage.store.noted, rfl, ?_⟩
  unfold Store.noted
  split
  · split <;> rfl
  · rfl

theorem silent_replaceItems (items : Table Text Text) : Keeps (Silent start) (replaceItems items) := by
  apply keeps_get_bind
  intro stage silent
  cases stage.store.replace items <;> exact silent.of_log rfl

theorem silent_getItem (key : Text) : Keeps (Silent start) (getItem key) := by
  apply (silent_permit _).bind
  intro _
  exact silent_items.bind fun _ => keeps_pure _

theorem silent_setItem (key value : Text) : Keeps (Silent start) (setItem key value) := by
  have recorded : Keeps (Silent start) (record (.called (.setItem key value))) := silent_modify fun _ => rfl
  apply (recorded.bind fun _ => silent_permit _).bind
  exact fun _ => silent_items.bind fun _ => silent_replaceItems _

theorem silent_onHost (call : Call) (onHost : call.OnHost) : call.effect.Keeps (Silent start) := by
  intro stage silent
  cases refused : stage.refusal stage.calls call with
  | none =>
    rw [perform_onHost onHost refused]
    exact silent.of_log rfl
  | some fault =>
    rw [perform_onHost_refused onHost refused]
    exact silent.of_log rfl

theorem silent_setText (text : Text) : Keeps (Silent start) (setText text) :=
  keeps_modify_setItem (fun _ silent => silent.of_log rfl) (silent_setItem _ _)

theorem silent_styled (property : String) {value : Effect Text} (keeps : value.Keeps (Silent start)) :
    (Request.styled property value).Keeps (Silent start) := by
  refine Keeps.bind (keeps_get_bind fun stage silent => ?_) fun _ => keeps_pure _
  cases stage.control with
  | none => exact silent
  | some control =>
    refine Keeps.bind keeps (fun shown => ?_) stage silent
    exact (silent_modify fun _ => rfl).bind fun _ => keeps_pure true

theorem silent_request (request : Request) : request.perform.Keeps (Silent start) := by
  cases request with
  | alert message => exact (silent_onHost (.notify _) trivial).bind fun _ => keeps_pure _
  | showText message => exact (silent_setText _).bind fun _ => keeps_pure _
  | showImage imageUrl =>
    apply Keeps.bind
    · exact keeps_modify_setItem (fun _ silent => silent.of_log rfl) (silent_setItem _ _)
    · exact fun _ => keeps_pure _
  | refreshPage => exact (silent_onHost .reload trivial).bind fun _ => keeps_pure _
  | setLocalStorage key value =>
    apply Keeps.ite
    · exact keeps_pure _
    · exact (silent_setItem _ _).bind fun _ => keeps_pure _
  | getLocalStorage key =>
    apply Keeps.ite
    · exact keeps_pure _
    · apply (silent_getItem _).bind
      exact fun _ => (silent_setText _).bind fun _ => keeps_pure _
  | increaseButtonSize => exact silent_styled _ (keeps_pure _)
  | closeWindow =>
    apply (silent_onHost .hasOpener trivial).bind
    intro opened
    cases opened with
    | true => exact (silent_onHost .close trivial).bind fun _ => keeps_pure _
    | false => exact (silent_onHost (.notify _) trivial).bind fun _ => keeps_pure _
  | promptAndShow message =>
    apply (silent_onHost (.prompt _) trivial).bind
    intro response
    apply Keeps.ite
    · exact keeps_pure _
    · apply (silent_setText _).bind
      intro _
      exact Keeps.bind (silent_modify fun _ => rfl) fun _ => keeps_pure _
  | changeButtonColor color =>
    apply silent_styled
    apply Keeps.ite
    · exact Keeps.bind (keeps_get_bind fun _ silent => silent.of_log rfl) fun _ => keeps_pure _
    · exact keeps_pure _
  | disableButton => exact Keeps.bind (silent_modify fun _ => rfl) fun _ => keeps_pure _

end

/-! ## One action -/

/-- An action is told of by itself just when it is skipped. -/
theorem told_dispatch (action : Action) (stage : Stage) :
    let performed := action.dispatch.perform stage
    Told (if Dispatched.outcome (action, performed.1) = .skipped then [action.skippedEntry] else []) stage
      performed.2 := by
  have silent := silent_request (Request.of action.kind action.params) stage (Told.refl stage)
  rcases asked : (Request.of action.kind action.params).perform.perform stage with ⟨result, after⟩
  rw [asked] at silent
  cases result with
  | error fault =>
    rw [Action.dispatch, Effect.perform_bind_of_error asked]
    exact silent
  | ok outcome =>
    rw [Action.dispatch, Effect.perform_bind_of_ok asked]
    cases outcome with
    | skipped => exact silent.trans (after.told_note action.skippedEntry)
    | completed | terminated | failed => exact silent

theorem isSome_fault?_dispatch (action : Action) (stage : Stage) :
    let dispatched : Dispatched Fault := (action, (action.dispatch.perform stage).1)
    dispatched.fault?.isSome = (dispatched.outcome == .failed) := by
  intro dispatched
  cases result : (action.dispatch.perform stage).1 with
  | error fault => simp [dispatched, result, Dispatched.fault?, Dispatched.outcome]
  | ok outcome =>
    have passed : outcome ≠ .failed := by
      rw [← Action.outcome_of_perform result]
      exact action.outcome_ne_failed _
    simp [dispatched, result, Dispatched.fault?, Dispatched.outcome, passed]

theorem told_perform (delay : Seconds) (index : Nat) (action : Action) (stage : Stage) (made : List (Made Fault)) :
    ∃ (result : Except Fault Outcome) (after : Stage),
      (acting.watched.performer delay).perform index action (stage, made) =
        (Dispatched.outcome (action, result), after, made ++ [.dispatched action result]) ∧
      (Dispatched.fault? (action, result)).isSome = (Dispatched.outcome (action, result) == .failed) ∧
      Told ((Dispatched.toStep index (action, result)).story (Dispatched.fault? (action, result))) stage after := by
  let begun : Stage := { stage with log := stage.log ++ [noticeEntry (.dispatching index action)] }
  have opened : Told [noticeEntry (.dispatching index action)] stage begun := stage.told_note _
  have dispatched := opened.trans (told_dispatch action begun)
  have failed := isSome_fault?_dispatch action begun
  rcases performed : action.dispatch.perform begun with ⟨result, after⟩
  rw [performed] at dispatched failed
  cases result with
  | error fault =>
    refine ⟨.error fault, { after with log := after.log ++ [noticeEntry (.failed index action fault)] }, ?_, failed, ?_⟩
    · simp only [Performer.perform, Means.performer, Means.watched, acting]
      rw [performed]
      rfl
    · exact dispatched.trans (after.told_note (noticeEntry (.failed index action fault)))
  | ok outcome =>
    refine ⟨.ok outcome, after, ?_, failed, ?_⟩
    · simp only [Performer.perform, Means.performer, Means.watched, acting]
      rw [performed]
      rfl
    · cases outcome with
      | failed => cases failed
      | skipped | completed | terminated => exact dispatched

/-! ## A run -/

theorem told_walk (delay : Seconds) (index : Nat) (actions : List Action) (stage : Stage) (made : List (Made Fault)) :
    let walked := (acting.watched.performer delay).walk index actions (stage, made)
    ∃ dispatches : List (Dispatched Fault),
      Made.dispatches walked.2.2 = Made.dispatches made ++ dispatches ∧
      (dispatches.map Dispatched.fault?).map Option.isSome = walked.1.map (·.outcome == .failed) ∧
      Told (Step.stories walked.1 (dispatches.map Dispatched.fault?)) stage walked.2.1 := by
  induction actions generalizing index stage made with
  | nil => exact ⟨[], (List.append_nil _).symm, rfl, Told.refl stage⟩
  | cons action rest ih =>
    obtain ⟨result, after, performed, failed, told⟩ := told_perform delay index action stage made
    by_cases ends : Dispatched.outcome (action, result) = .terminated
    · rw [ends] at performed
      rw [Performer.walk_cons_of_ends _ performed]
      refine ⟨[(action, result)], ?_, ?_, ?_⟩
      · simp
      · simpa [ends] using failed
      · simpa [Step.stories, Dispatched.toStep, ends] using told
    · have pauses : (acting.watched.performer delay).pause (after, made ++ [.dispatched action result]) =
        (acting.sleep delay after, made ++ [.dispatched action result] ++ [.slept delay]) := rfl
      obtain ⟨dispatches, calls, failures, stories⟩ := ih (index + 1) (acting.sleep delay after)
        (made ++ [.dispatched action result] ++ [.slept delay])
      rw [Performer.walk_cons _ performed ends, pauses]
      refine ⟨(action, result) :: dispatches, ?_, ?_, ?_⟩
      · rw [calls]
        simp
      · simpa [failed] using failures
      · exact (told.of_log rfl).trans stories

end Stage

/-! ## From the entries back to the report -/

theorem Report.terminated_cons {step : Step} (steps : List Step) (goesOn : step.outcome ≠ .terminated) :
    Report.terminated ⟨step :: steps⟩ = Report.terminated ⟨steps⟩ := by
  rw [terminated, List.any_cons, beq_false_of_ne goesOn, Bool.false_or]
  rfl

namespace Step

/-- The step as its entries tell it: that it ended the run is told only when the run has finished. -/
def told (step : Step) : Step :=
  { step with outcome := if step.outcome = .terminated then .completed else step.outcome }

def Opens (entries : List Log.Entry) : Prop :=
  ∀ entry ∈ entries.head?, entry.message ≠ "Action skipped" ∧ entry.message ≠ "Action failed"

theorem told_eq_of_story {step other : Step} {fault another : Option Fault} {rest later : List Log.Entry}
    (opens : Opens rest) (opensLater : Opens later)
    (same : step.story fault ++ rest = other.story another ++ later) : step.told = other.told ∧ rest = later := by
  obtain ⟨index, id, kind, outcome⟩ := step
  obtain ⟨place, name, sort, result⟩ := other
  simp only [story, logFields, List.cons_append, List.cons.injEq, Log.Entry.mk.injEq, Prod.mk.injEq, Json.int.injEq,
    Json.str.injEq, Text.ofString_inj, Int.natCast_inj, Kind.name_injective.eq_iff, true_and, and_true] at same
  obtain ⟨⟨rfl, rfl, rfl⟩, same⟩ := same
  -- an entry too many on one side would be the next one on the other
  cases outcome <;> cases result <;> (try subst same) <;> simp_all [Opens, told]

theorem opens_stories (steps : List Step) (faults : List (Option Fault)) {last : Log.Entry}
    (finished : last.message = "Run finished") : Opens (stories steps faults ++ [last]) := by
  cases steps with
  | nil => simp [Opens, stories, finished]
  | cons step steps =>
    cases faults with
    | nil => simp [Opens, stories, finished]
    | cons fault faults => simp [Opens, stories, story]

theorem map_told_eq_of_stories {steps others : List Step} {faults moreFaults : List (Option Fault)}
    {last final : Log.Entry} (length : faults.length = steps.length) (lengthToo : moreFaults.length = others.length)
    (finished : last.message = "Run finished") (finishedToo : final.message = "Run finished")
    (same : stories steps faults ++ [last] = stories others moreFaults ++ [final]) :
    steps.map told = others.map told ∧ last = final := by
  induction steps generalizing faults others moreFaults with
  | nil =>
    cases others with
    | nil => simpa [stories] using same
    | cons other others =>
      obtain ⟨another, moreFaults, rfl⟩ := List.exists_cons_of_length_eq_add_one lengthToo
      simp only [stories, story, List.zipWith_nil_left, List.flatten_nil, List.nil_append, List.zipWith_cons_cons,
        List.flatten_cons, List.cons_append, List.cons.injEq] at same
      simp [same.1] at finished
  | cons step steps ih =>
    obtain ⟨fault, faults, rfl⟩ := List.exists_cons_of_length_eq_add_one length
    cases others with
    | nil =>
      simp only [stories, story, List.zipWith_nil_left, List.flatten_nil, List.nil_append, List.zipWith_cons_cons,
        List.flatten_cons, List.cons_append, List.cons.injEq] at same
      simp [← same.1] at finishedToo
    | cons other others =>
      obtain ⟨another, moreFaults, rfl⟩ := List.exists_cons_of_length_eq_add_one lengthToo
      have opened : step.story fault ++ (stories steps faults ++ [last]) =
          other.story another ++ (stories others moreFaults ++ [final]) := by
        simpa [stories] using same
      obtain ⟨first, rest⟩ := told_eq_of_story (opens_stories steps faults finished)
        (opens_stories others moreFaults finishedToo) opened
      obtain ⟨steps, last⟩ := ih (Nat.succ.inj length) (Nat.succ.inj lengthToo) rest
      exact ⟨by rw [List.map_cons, List.map_cons, first, steps], last⟩

theorem eq_of_told {step other : Step} (same : step.told = other.told)
    (ends : step.outcome = .terminated ↔ other.outcome = .terminated) : step = other := by
  obtain ⟨index, id, kind, outcome⟩ := step
  obtain ⟨place, name, sort, result⟩ := other
  simp only [told, mk.injEq] at same ends ⊢
  obtain ⟨rfl, rfl, rfl, same⟩ := same
  cases outcome <;> cases result <;> simp_all

/-- Where only the last step can have ended the run, it is told from the end whether it did. -/
theorem eq_of_map_told {steps others : List Step}
    (goesOn : ∀ earlier ∈ steps.dropLast, earlier.outcome ≠ .terminated)
    (goesOnToo : ∀ earlier ∈ others.dropLast, earlier.outcome ≠ .terminated)
    (same : steps.map told = others.map told)
    (ended : Report.terminated ⟨steps⟩ = Report.terminated ⟨others⟩) : steps = others := by
  induction steps generalizing others with
  | nil => exact (List.map_eq_nil_iff.mp same.symm).symm
  | cons step steps ih =>
    cases others with
    | nil => cases same
    | cons other others =>
      obtain ⟨first, rest⟩ := List.cons.inj same
      cases steps with
      | nil =>
        have alone := List.map_eq_nil_iff.mp rest.symm
        subst alone
        simp only [Report.terminated, List.any_cons, List.any_nil, Bool.or_false] at ended
        rw [eq_of_told first (by rw [← beq_iff_eq, ended, beq_iff_eq])]
      | cons second steps =>
        obtain ⟨next, others, rfl⟩ := List.exists_cons_of_length_eq_add_one
          ((List.length_map told).symm.trans ((congrArg List.length rest).symm.trans (List.length_map told)))
        rw [List.dropLast_cons_cons, List.forall_mem_cons] at goesOn goesOnToo
        have here := eq_of_told first (iff_of_false goesOn.1 goesOnToo.1)
        have later : Report.terminated ⟨second :: steps⟩ = Report.terminated ⟨next :: others⟩ := by
          rwa [Report.terminated_cons _ goesOn.1, Report.terminated_cons _ goesOnToo.1] at ended
        rw [here, ih goesOn.2 goesOnToo.2 rest later]

end Step

theorem Performer.goes_on_walk {σ ε : Type} (performer : Performer σ ε) (index : Nat) (actions : List Action)
    (state : σ) : ∀ earlier ∈ (performer.walk index actions state).1.dropLast, earlier.outcome ≠ .terminated := by
  induction actions generalizing index state with
  | nil => nofun
  | cons action rest ih =>
    rcases performed : performer.perform index action state with ⟨outcome, after⟩
    by_cases ends : outcome = .terminated
    · subst ends
      rw [walk_cons_of_ends performer performed]
      nofun
    · have later := ih (index + 1) (performer.pause after)
      rw [walk_cons performer performed ends]
      -- this step is the last one unless another follows
      generalize (performer.walk (index + 1) rest (performer.pause after)).1 = steps at later
      cases steps with
      | nil => nofun
      | cons second steps =>
        rw [List.dropLast_cons_cons, List.forall_mem_cons]
        exact ⟨ends, later⟩

namespace Stage

theorem told_ran (delay : Seconds) (workflow : Workflow) (stage : Stage) :
    let ran := acting.ran delay workflow stage
    let faults := (Made.dispatches ran.made).map Dispatched.fault?
    (∀ earlier ∈ ran.report.steps.dropLast, earlier.outcome ≠ .terminated) ∧
      faults.map Option.isSome = ran.report.steps.map (·.outcome == .failed) ∧
      stage.Told (ran.report.story workflow.actions.length faults) ran.state := by
  let begun : Stage := { stage with log := stage.log ++ [noticeEntry (.started workflow.actions.length)] }
  have goesOn := (acting.watched.performer delay).goes_on_walk 0 workflow.actions (begun, [])
  obtain ⟨dispatches, made, failures, stories⟩ := told_walk delay 0 workflow.actions begun []
  rcases walked : (acting.watched.performer delay).walk 0 workflow.actions (begun, []) with ⟨steps, after, calls⟩
  rw [walked] at goesOn made failures stories
  have started : (acting.watched.performer delay).notice (.started workflow.actions.length) (stage, []) =
    (begun, []) := rfl
  have ran : acting.ran delay workflow stage =
      let ended := noticeEntry (.finished steps.length (Report.terminated ⟨steps⟩))
      ⟨⟨steps⟩, calls, { after with log := after.log ++ [ended] }⟩ := by
    rw [Means.ran, Performer.run_eq_walk, started, walked]
    rfl
  rw [ran]
  dsimp only at made ⊢
  rw [made, Made.dispatches_nil, List.nil_append]
  have opened : Told [noticeEntry (.started workflow.actions.length)] stage begun := stage.told_note _
  exact ⟨goesOn, failures, (opened.trans stories).trans (after.told_note _)⟩

theorem perform_run_acting (delay : Seconds) (workflow : Workflow) (stage : Stage) :
    let ran := acting.ran delay workflow stage
    (Stage.run delay workflow).perform stage = (.ok ran.report, ran.state) := by
  have run : (Stage.run delay workflow).perform stage =
    let ran := (acting.performer delay).run workflow stage
    (.ok ran.1, ran.2.2) := rfl
  rw [run, ← (acting.watched_over delay).run workflow (stage, [])]
  rfl

/-- The story of a run is that of no other report. -/
theorem report_eq_of_story {report other : Report} {actions others : Nat} {faults moreFaults : List (Option Fault)}
    (failures : faults.map Option.isSome = report.steps.map (·.outcome == .failed))
    (failuresToo : moreFaults.map Option.isSome = other.steps.map (·.outcome == .failed))
    (goesOn : ∀ earlier ∈ report.steps.dropLast, earlier.outcome ≠ .terminated)
    (goesOnToo : ∀ earlier ∈ other.steps.dropLast, earlier.outcome ≠ .terminated)
    (same : report.story actions faults = other.story others moreFaults) : report = other := by
  have length : faults.length = report.steps.length := by simpa using congrArg List.length failures
  have lengthToo : moreFaults.length = other.steps.length := by simpa using congrArg List.length failuresToo
  obtain ⟨steps, final⟩ := Step.map_told_eq_of_stories length lengthToo rfl rfl (List.cons.inj same).2
  obtain ⟨-, ended⟩ : report.steps.length = other.steps.length ∧ report.terminated = other.terminated := by
    simpa using final
  have steps := Step.eq_of_map_told goesOn goesOnToo steps ended
  obtain ⟨steps⟩ := report
  exact congrArg Report.mk steps

theorem Told.unique {entries others : List Log.Entry} {before after : Stage} (told : Told entries before after)
    (toldToo : Told others before after) : entries = others := by
  obtain ⟨added, log, rfl⟩ := told
  obtain ⟨more, same, rfl⟩ := toldToo
  rw [List.append_cancel_left (log.symm.trans same)]

/-- The log tells the same story as the report. Whatever calls raise faults on whatever stage, the entries of a run and
its actions are the story of its report, in which each step that failed has the fault in which its dispatch ended. So
runs of which the same is told, even of two workflows, have the same report. -/
theorem run_told (delay : Seconds) (workflow : Workflow) (stage : Stage) :
    let ran := acting.ran delay workflow stage
    let faults := (Made.dispatches ran.made).map Dispatched.fault?
    (Stage.run delay workflow).perform stage = (.ok ran.report, ran.state) ∧
      faults.map Option.isSome = ran.report.steps.map (·.outcome == .failed) ∧
      stage.Told (ran.report.story workflow.actions.length faults) ran.state ∧
      ∀ (other : Seconds) (another : Workflow) (elsewhere : Stage) (entries : List Log.Entry),
        let again := acting.ran other another elsewhere
        stage.Told entries ran.state → elsewhere.Told entries again.state → ran.report = again.report := by
  intro ran faults
  obtain ⟨goesOn, failures, told⟩ := told_ran delay workflow stage
  refine ⟨perform_run_acting delay workflow stage, failures, told, ?_⟩
  intro other another elsewhere entries again same sameToo
  obtain ⟨goesOnToo, failuresToo, toldToo⟩ := told_ran other another elsewhere
  exact report_eq_of_story failures failuresToo goesOn goesOnToo ((told.unique same).trans (sameToo.unique toldToo))

end Stage

end Pushbutton
