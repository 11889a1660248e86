import Pushbutton.Proofs.Run.Isolation
import Pushbutton.Proofs.Store.Refinement
import Pushbutton.Workflow.Saved

/-! Runs that share a stage. Their cursors are moved in any turn, and the store is used between the moves; each
cursor still gives the steps that its run would report alone. -/

set_option autoImplicit false

namespace Pushbutton

structure Flight where
  workflow : Workflow
  recording : Recording Fault

structure Shared (σ : Type) where
  flights : List Flight
  state : σ

/-- What can happen next: a run is begun, one of its cursors is made, moved or closed, or the store is used. -/
inductive Turn where
  | begin (delay : Seconds) (workflow : Workflow)
  | operate (number : Nat) (operation : Operation)
  | access (access : Access)
  | save (key : Text) (workflow : Workflow)

variable {σ τ ε : Type}

namespace Shared

def act (means : Means σ Fault) (modify : (Stage → Stage) → σ → σ) (shared : Shared σ) : Turn → Shared σ
  | .begin delay workflow =>
    { shared with flights := shared.flights ++ [⟨workflow, .ofActions delay workflow.actions⟩] }
  | .operate number operation =>
    match shared.flights[number]? with
    | none => shared
    | some flight =>
      let (recording, state) := flight.recording.act means operation shared.state
      ⟨shared.flights.set number { flight with recording }, state⟩
  | .access access =>
    { shared with state := modify (fun stage => (access.issue.perform stage).2) shared.state }
  | .save key workflow =>
    { shared with state := modify (fun stage => ((Stage.save key workflow).perform stage).2) shared.state }

def play (means : Means σ Fault) (modify : (Stage → Stage) → σ → σ) (turns : List Turn)
    (shared : Shared σ) : Shared σ :=
  turns.foldl (act means modify) shared

def map (project : τ → σ) (shared : Shared τ) : Shared σ := ⟨shared.flights, project shared.state⟩

end Shared

def Stage.acting : Means Stage Fault where
  dispatch action stage := action.dispatch.perform stage
  sleep delay stage := { stage with events := stage.events ++ [.slept delay] }
  notice notice stage := { stage with log := stage.log ++ [noticeEntry notice] }

def Stage.play (turns : List Turn) (stage : Stage) : Shared Stage :=
  Shared.play Stage.acting id turns ⟨[], stage⟩

def Stage.observe (turns : List Turn) (stage : Stage) : Shared (Stage × List Attempt) :=
  Shared.play Stage.observing (fun change state => (change state.1, state.2)) turns ⟨[], (stage, [])⟩

/-! ## Through a projection -/

section

variable {project : τ → σ}

theorem Performer.Over.watched {fine : Means τ ε} {coarse : Means σ ε} {delay : Seconds}
    (covers : Over project (fine.performer delay) (coarse.performer delay)) :
    Over (Prod.map project id) (fine.watched.performer delay) (coarse.watched.performer delay) := by
  refine ⟨fun action state => ?_, fun state => ?_, fun notice state => ?_⟩
  · have same := covers.dispatch action state.1
    simp only [Means.performer] at same
    simp only [Means.performer, Means.watched, Prod.map_fst, ← same]
    rfl
  · exact Prod.ext (covers.pause state.1) rfl
  · exact Prod.ext (covers.notice notice state.1) rfl

theorem Cursor.close_map (cursor : Cursor) (phase : Phase) (state : τ) :
    (cursor.close phase state).map project = cursor.close phase (project state) := by
  have closed : Moved.Paired (fun _ state seen => project state = seen) [] (cursor.close phase state)
    (cursor.close phase (project state)) := Performer.Paired.close cursor phase rfl
  exact closed.map_eq

theorem Recording.acted_map {fine : Means τ ε} {coarse : Means σ ε} {recording : Recording ε}
    (covers : Performer.Over project (fine.performer recording.delay) (coarse.performer recording.delay))
    (operation : Operation) (state : τ) :
    Prod.map id (Prod.map id project) (recording.acted fine operation state) =
      recording.acted coarse operation (project state) := by
  cases operation with
  | start => rfl
  | next number =>
    have same := covers.watched.next recording.playback.actions recording.playback.phase (state, [])
      (recording.playback.cursors.getD number .ended)
    simp only [Prod.map, id] at same
    simp only [acted, Operation.act, Playback.next, ← same]
    rfl
  | close number =>
    have same := @Cursor.close_map (σ × List (Made ε)) _ (Prod.map project id)
      (recording.playback.cursors.getD number .ended) recording.playback.phase (state, [])
    simp only [Prod.map, id] at same
    simp only [acted, Operation.act, Playback.close, ← same]
    rfl

theorem Recording.act_map {fine : Means τ ε} {coarse : Means σ ε} {recording : Recording ε}
    (covers : Performer.Over project (fine.performer recording.delay) (coarse.performer recording.delay))
    (operation : Operation) (state : τ) :
    Prod.map id project (recording.act fine operation state) =
      recording.act coarse operation (project state) := by
  unfold act
  split
  · rw [← acted_map covers]
    rfl
  · rfl

end

namespace Stage

theorem observe_map (turns : List Turn) (stage : Stage) :
    (stage.observe turns).map Prod.fst = stage.play turns := by
  have step (shared : Shared (Stage × List Attempt)) (turn : Turn) :
      (shared.act observing (fun change state => (change state.1, state.2)) turn).map Prod.fst =
        (shared.map Prod.fst).act acting id turn := by
    cases turn with
    | operate number operation =>
      simp only [Shared.act, Shared.map]
      split
      · rfl
      · next flight _ =>
        have covers : Performer.Over Prod.fst (observing.performer flight.recording.delay)
          (acting.performer flight.recording.delay) := observing_over _
        rw [← Recording.act_map covers operation shared.state]
        rfl
    | begin | access | save => rfl
  exact (List.foldl_hom (Shared.map Prod.fst) fun shared turn => (step shared turn).symm).symm

end Stage

/-! ## What becomes of an action -/

section

variable {controlled : Bool}

def Action.due (controlled : Bool) : List Action → List Action
  | [] => []
  | action :: rest => action :: if action.outcome controlled = .terminated then [] else due controlled rest

def Action.toStep (controlled : Bool) (index : Nat) (action : Action) : Step :=
  ⟨index, action.id, action.kind, action.outcome controlled⟩

/-- A dispatch that came to what becomes of its action without faults. -/
def Dispatched.Expected (controlled : Bool) (dispatched : Dispatched ε) : Prop :=
  dispatched.outcome = dispatched.1.outcome controlled

theorem Dispatched.steps_eq {dispatches : List (Dispatched ε)}
    (expected : ∀ dispatched ∈ dispatches, dispatched.Expected controlled) :
    dispatches.mapIdx toStep = (dispatches.map (·.1)).mapIdx (Action.toStep controlled) := by
  apply List.ext_getElem
  · simp
  · intro index inside _
    have outcome := expected _ (List.getElem_mem (by simpa using inside))
    simpa [toStep, Action.toStep, Expected] using outcome

theorem Played.due_eq {actions : List Action} {dispatches : List (Dispatched ε)}
    (played : Played actions dispatches)
    (expected : ∀ dispatched ∈ dispatches, dispatched.Expected controlled) :
    Action.due controlled actions = dispatches.map (·.1) := by
  induction played with
  | nil => rfl
  | @last action result rest ends =>
    have outcome := expected _ (List.mem_singleton_self _)
    rw [Action.due, if_pos (outcome.symm.trans ends)]
    rfl
  | @next action result rest later goesOn _ ih =>
    obtain ⟨outcome, others⟩ := List.forall_mem_cons.mp expected
    rw [Action.due, if_neg fun ends => goesOn (outcome.trans ends), ih others]
    rfl

namespace Playing

variable {actions rest : List Action} {dispatches : List (Dispatched ε)}

theorem due_of_goesOn (playing : Playing actions dispatches rest)
    (expected : ∀ dispatched ∈ dispatches, dispatched.Expected controlled)
    (goesOn : ∀ last ∈ dispatches.getLast?, last.outcome ≠ .terminated) :
    Action.due controlled actions = dispatches.map (·.1) ++ Action.due controlled rest := by
  induction playing with
  | nil => rfl
  | @snoc dispatches action rest result playing before ih =>
    obtain ⟨others, outcome⟩ := List.forall_mem_append.mp expected
    have stays : action.outcome controlled ≠ .terminated := by
      rw [← outcome (action, result) (List.mem_singleton_self _)]
      exact goesOn _ (by simp)
    rw [ih others before, Action.due, if_neg stays]
    simp

theorem due_of_ends (playing : Playing actions dispatches rest)
    (expected : ∀ dispatched ∈ dispatches, dispatched.Expected controlled)
    (ends : ∃ last ∈ dispatches.getLast?, last.outcome = .terminated) :
    Action.due controlled actions = dispatches.map (·.1) := by
  cases playing with
  | nil => obtain ⟨_, found, _⟩ := ends; cases found
  | @snoc dispatches action rest result playing before =>
    obtain ⟨others, outcome⟩ := List.forall_mem_append.mp expected
    have stops : action.outcome controlled = .terminated := by
      rw [← outcome (action, result) (List.mem_singleton_self _)]
      simpa using ends
    rw [playing.due_of_goesOn others before, Action.due, if_pos stops]
    simp

theorem due_eq (playing : Playing actions dispatches rest)
    (expected : ∀ dispatched ∈ dispatches, dispatched.Expected controlled) :
    dispatches.map (·.1) = (Action.due controlled actions).take dispatches.length := by
  by_cases ends : ∃ last ∈ dispatches.getLast?, last.outcome = .terminated
  · rw [playing.due_of_ends expected ends]
    simp
  · rw [playing.due_of_goesOn expected (by simpa using ends)]
    simp

end Playing

/-- A cursor that met no fault has dispatched as many of the due actions as it was advanced. -/
theorem Cursor.Follows.due_eq {cursor : Cursor} {actions : List Action} {trail : Trail ε}
    (follows : cursor.Follows actions trail)
    (expected : ∀ dispatched ∈ trail.dispatches, dispatched.Expected controlled) :
    trail.dispatches.map (·.1) = (Action.due controlled actions).take trail.advances := by
  cases follows.place with
  | fresh none => subst none; rfl
  | paused last playing count _ _ all length _ =>
    rw [Trail.advances_of_all all, length, ← count]
    exact playing.due_eq expected
  | stopped playing _ advances =>
    rw [advances]
    exact playing.due_eq expected
  | finished playing whole advances =>
    have all : Action.due controlled actions = trail.dispatches.map (·.1) := by
      by_cases ends : ∃ last ∈ trail.dispatches.getLast?, last.outcome = .terminated
      · exact playing.due_of_ends expected ends
      · rw [playing.due_of_goesOn expected (by simpa using ends), whole.resolve_right ends, Action.due]
        exact List.append_nil _
    rw [all, List.take_of_length_le]
    simpa using advances

theorem Cursor.Follows.steps_eq {cursor : Cursor} {actions : List Action} {trail : Trail ε}
    (follows : cursor.Follows actions trail)
    (expected : ∀ dispatched ∈ trail.dispatches, dispatched.Expected controlled) :
    trail.steps =
      ((Action.due controlled actions).mapIdx (Action.toStep controlled)).take trail.advances := by
  rw [follows.steps, Dispatched.steps_eq expected, follows.due_eq expected]
  apply List.ext_getElem?
  intro index
  simp only [List.getElem?_mapIdx, List.getElem?_take]
  split <;> rfl

end

/-! ## Calm turns -/

/-- What one operation on a stage comes to, while no call raises a fault. -/
structure Calm (controlled : Bool) (earlier : List Attempt)
    (state : (Stage × List Attempt) × List (Made Fault)) : Prop where
  control : state.1.1.control.isSome = controlled
  grown : earlier ⊆ state.1.2
  expected : (∀ attempt ∈ state.1.2, attempt.failed = false) →
    ∀ dispatched ∈ Made.dispatches state.2, dispatched.Expected controlled

section

variable {controlled : Bool}

theorem Calm.refl {stage : Stage} (held : stage.control.isSome = controlled) (attempts : List Attempt) :
    Calm controlled attempts ((stage, attempts), []) :=
  ⟨held, List.Subset.refl _, fun _ _ member => by cases member⟩

theorem Calm.keeps (controlled : Bool) (earlier : List Attempt) (delay : Seconds) (actions : List Action) :
    (Stage.observing.watched.performer delay).Keeps actions (Calm controlled earlier) := by
  refine ⟨fun action _ state before => ?_, fun state before => ?_, fun notice state before => ?_⟩
  · have settled := action.settled_dispatch before.control
    have outcome := action.outcome_dispatch before.control
    refine ⟨settled.control, fun attempt member => List.mem_append_left _ (before.grown member), ?_⟩
    intro calm
    obtain ⟨others, here⟩ := List.forall_mem_append.mp calm
    rw [Attempt.outcome, here _ (List.mem_singleton_self _)] at outcome
    have made : Made.dispatches ((Stage.observing.watched.performer delay).dispatch action state).2.2 =
        Made.dispatches state.2 ++ [(action, (action.dispatch.perform state.1.1).1)] :=
      Made.dispatches_append _ _
    rw [made]
    exact List.forall_mem_append.mpr ⟨before.expected others, List.forall_mem_singleton.mpr outcome⟩
  · refine ⟨before.control, before.grown, fun calm => ?_⟩
    have made : Made.dispatches ((Stage.observing.watched.performer delay).pause state).2 =
        Made.dispatches state.2 := by
      simp [Means.performer, Means.watched]
    rw [made]
    exact before.expected calm
  · exact ⟨before.control, before.grown, before.expected⟩

theorem Cursor.Follows.ahead_subset {cursor : Cursor} {actions : List Action} {trail : Trail ε}
    (follows : cursor.Follows actions trail) : cursor.ahead actions ⊆ actions := by
  cases follows.place with
  | fresh => exact List.Subset.refl _
  | @paused index outcome rest last playing =>
    rw [← playing.actions_eq]
    exact List.subset_append_right _ _
  | stopped | finished => exact List.nil_subset _

theorem Recording.Sound.calm_acted {recording : Recording Fault} (sound : recording.Sound)
    {operation : Operation}
    (possible : ∀ number ∈ operation.number?, number < recording.playback.cursors.length)
    {stage : Stage} (held : stage.control.isSome = controlled) (attempts : List Attempt) :
    let acted := recording.acted Stage.observing operation (stage, attempts)
    Calm controlled attempts (acted.2.2, acted.1.made) := by
  have start := Calm.refl held attempts
  cases operation with
  | start => exact start
  | next number =>
    have found := List.getElem?_eq_getElem (possible number rfl)
    have inside := (sound.follows found).ahead_subset
    rw [acted_next found]
    exact (Calm.keeps controlled attempts recording.delay recording.playback.actions).next _ _ start inside
  | close number =>
    have found := List.getElem?_eq_getElem (possible number rfl)
    rw [sound.closes found]
    exact start

theorem Recording.actions_act (means : Means σ ε) (recording : Recording ε) (operation : Operation)
    (state : σ) :
    (recording.act means operation state).1.playback.actions = recording.playback.actions := by
  unfold act
  split
  · cases operation <;> rfl
  · rfl

/-- Where a run stands among others: its cursors are as operations leave them, and without faults what they
dispatched came to what it would come to alone. -/
structure Flight.Fits (controlled : Bool) (attempts : List Attempt) (flight : Flight) : Prop where
  sound : flight.recording.Sound
  actions : flight.recording.playback.actions = flight.workflow.actions
  expected : (∀ attempt ∈ attempts, attempt.failed = false) →
    ∀ entry ∈ flight.recording.past, ∀ dispatched ∈ Made.dispatches entry.made, dispatched.Expected controlled

theorem Flight.Fits.mono {attempts later : List Attempt} {flight : Flight}
    (fits : flight.Fits controlled attempts) (grown : attempts ⊆ later) : flight.Fits controlled later :=
  ⟨fits.sound, fits.actions, fun calm => fits.expected fun attempt member => calm attempt (grown member)⟩

theorem Flight.Fits.act {attempts : List Attempt} {flight : Flight} (fits : flight.Fits controlled attempts)
    {stage : Stage} (held : stage.control.isSome = controlled) (operation : Operation) :
    let acted := flight.recording.act Stage.observing operation (stage, attempts)
    acted.2.1.control.isSome = controlled ∧ attempts ⊆ acted.2.2 ∧
      Flight.Fits controlled acted.2.2 ⟨flight.workflow, acted.1⟩ := by
  have sound := fits.sound.act Stage.observing operation (stage, attempts)
  have actions := (flight.recording.actions_act Stage.observing operation (stage, attempts)).trans fits.actions
  unfold Recording.act at sound actions ⊢
  split
  · next possible =>
    obtain ⟨control, grown, expected⟩ := fits.sound.calm_acted possible held attempts
    rw [if_pos possible] at sound actions
    refine ⟨control, grown, sound, actions, fun calm => ?_⟩
    exact List.forall_mem_append.mpr
      ⟨(fits.mono grown).expected calm, List.forall_mem_singleton.mpr (expected calm)⟩
  · exact ⟨held, List.Subset.refl _, fits⟩

theorem Effect.keeps_control {α : Type} {effect : Effect α} (counts : Stage.Counts effect) :
    effect.Keeps fun stage => stage.control.isSome = controlled :=
  fun stage held => (congrArg Option.isSome (counts stage).control).trans held

open Effect in
theorem Access.keeps_control (access : Access) :
    access.issue.Keeps fun stage => stage.control.isSome = controlled := by
  cases access with
  | get key => exact Keeps.bind (Effect.keeps_control (Call.getItem key).counts) fun _ => keeps_pure _
  | set key value =>
    exact Keeps.bind (Effect.keeps_control (Call.setItem key value).counts) fun _ => keeps_pure _
  | remove key => exact Keeps.bind (Effect.keeps_control (Call.removeItem key).counts) fun _ => keeps_pure _
  | clear => exact Keeps.bind (Effect.keeps_control Call.clear.counts) fun _ => keeps_pure _
  | snapshot =>
    refine Keeps.bind (fun stage held => ?_) fun _ => keeps_pure _
    exact (congrArg Option.isSome (Stage.untouched_items stage (.refl stage)).control).trans held

open Effect in
theorem Stage.keeps_control_save (key : Text) (workflow : Workflow) :
    (Stage.save key workflow).Keeps fun stage => stage.control.isSome = controlled :=
  Keeps.bind (Effect.keeps_control (Call.setItem key workflow.recordText).counts) fun _ _ held => held

/-- Runs that share a stage, after any turns. -/
structure Shared.Undisturbed (controlled : Bool) (shared : Shared (Stage × List Attempt)) : Prop where
  control : shared.state.1.control.isSome = controlled
  fits : ∀ flight ∈ shared.flights, flight.Fits controlled shared.state.2

theorem Shared.Undisturbed.act {shared : Shared (Stage × List Attempt)}
    (undisturbed : shared.Undisturbed controlled) (turn : Turn) :
    (shared.act Stage.observing (fun change state => (change state.1, state.2)) turn).Undisturbed controlled := by
  obtain ⟨control, fits⟩ := undisturbed
  cases turn with
  | begin delay workflow =>
    refine ⟨control, List.forall_mem_append.mpr ⟨fits, List.forall_mem_singleton.mpr ?_⟩⟩
    exact ⟨Recording.sound_ofActions delay workflow.actions, rfl, fun _ _ member => by cases member⟩
  | operate number operation =>
    simp only [Shared.act]
    split
    · exact ⟨control, fits⟩
    · next flight found =>
      obtain ⟨still, grown, moved⟩ := (fits flight (List.mem_of_getElem? found)).act control operation
      refine ⟨still, fun other member => ?_⟩
      rcases List.mem_or_eq_of_mem_set member with before | rfl
      · exact (fits other before).mono grown
      · exact moved
  | access access => exact ⟨access.keeps_control _ control, fits⟩
  | save key workflow => exact ⟨Stage.keeps_control_save key workflow _ control, fits⟩

theorem Stage.observe_undisturbed (turns : List Turn) (stage : Stage) :
    (stage.observe turns).Undisturbed stage.control.isSome := by
  have plays (shared : Shared (Stage × List Attempt)) (undisturbed : shared.Undisturbed stage.control.isSome) :
      (shared.play observing (fun change state => (change state.1, state.2)) turns).Undisturbed
        stage.control.isSome := by
    induction turns generalizing shared with
    | nil => exact undisturbed
    | cons turn rest ih => exact ih _ (undisturbed.act turn)
  exact plays ⟨[], (stage, [])⟩ ⟨rfl, fun _ member => by cases member⟩

theorem Stage.run_due (delay : Seconds) (workflow : Workflow) (stage : Stage)
    (calm : ∀ attempt ∈ ((observing.performer delay).run workflow (stage, [])).2.2.2, attempt.failed = false) :
    ∃ after, (Stage.run delay workflow).perform stage =
      (.ok ⟨(Action.due stage.control.isSome workflow.actions).mapIdx
        (Action.toStep stage.control.isSome)⟩, after) := by
  obtain ⟨dispatches, ⟨after, attempts⟩, played, ran⟩ := observing.run_played delay workflow (stage, [])
  have kept := (Calm.keeps stage.control.isSome [] delay workflow.actions).run (Calm.refl rfl [])
  have seen := (observing.watched_over delay).run workflow ((stage, []), [])
  rw [ran] at kept seen
  rw [← seen] at calm
  have expected := kept.expected calm
  simp only [Made.dispatches_calls] at expected
  refine ⟨after, ?_⟩
  rw [perform_run, ← seen, played.due_eq expected, ← Dispatched.steps_eq expected]
  rfl

end

/-- Runs that share a stage have no part in each other's steps. Whatever runs are begun, in whatever turn their
cursors are made, moved and closed, and whatever is stored between, each cursor gives the first steps, as many
as it was advanced, of the report that its workflow has when it runs alone on another stage, with a button there
as here; and it dispatches actions of the workflow that was begun. This is so while no call raises a fault. -/
theorem Stage.play_reports_alone (turns : List Turn) (stage other : Stage) (delay : Seconds)
    (calm : ∀ attempt ∈ (stage.observe turns).state.2, attempt.failed = false)
    (control : other.control.isSome = stage.control.isSome) {flight : Flight}
    (begun : flight ∈ (stage.play turns).flights)
    (calmAlone : ∀ attempt ∈ ((observing.performer delay).run flight.workflow (other, [])).2.2.2,
      attempt.failed = false) :
    ∃ report after, (Stage.run delay flight.workflow).perform other = (.ok report, after) ∧
      ∀ number, number < flight.recording.playback.cursors.length →
        let trail := flight.recording.own number
        trail.steps = report.steps.take trail.advances ∧
        trail.dispatches.map (·.1) = flight.workflow.actions.take trail.steps.length := by
  obtain ⟨after, ran⟩ := Stage.run_due delay flight.workflow other calmAlone
  refine ⟨_, after, ran, fun number made => ?_⟩
  rw [← observe_map] at begun
  obtain ⟨sound, actions, expected⟩ := (stage.observe_undisturbed turns).fits flight begun
  have follows := sound.follows (List.getElem?_eq_getElem made)
  have regular : ∀ dispatched ∈ (flight.recording.own number).dispatches,
      dispatched.Expected stage.control.isSome := by
    intro dispatched member
    obtain ⟨entry, there, inside⟩ := Trail.mem_dispatches.mp member
    exact expected calm entry (List.mem_of_mem_filter there) dispatched inside
  rw [actions] at follows
  refine ⟨?_, ?_⟩
  · rw [control]
    exact follows.steps_eq regular
  · obtain ⟨rest, playing⟩ := follows.playing
    rw [follows.steps, List.length_mapIdx]
    exact playing.take_eq

def storing : Workflow where
  actions := [{ id := "a", kind := .setLocalStorage, params := { key := some Workflow.savedKey } },
    { id := "b", kind := .getLocalStorage, params := { key := some Workflow.savedKey } }]

def refreshing : Workflow where
  actions := [{ id := "c", kind := .refreshPage }, { id := "d", kind := .alert }]

/-- Two runs whose workflows are overwritten while they are under way. -/
def overlapping : List Turn :=
  [.begin (.whole 0) storing, .begin (.whole 1) refreshing, .operate 0 .start, .operate 1 .start,
    .operate 0 (.next 0), .save Workflow.savedKey refreshing, .operate 1 (.next 0), .access .clear,
    .operate 0 (.next 0), .operate 1 (.next 0)]

theorem Stage.begun_overlapping : (Stage.play overlapping { store := .memory [] }).flights ≠ [] := by
  decide +kernel

theorem Stage.play_reports_alone_overlapping :
    ∃ flight ∈ (Stage.play overlapping { store := .memory [] }).flights,
      (flight.recording.own 0).steps =
        [⟨0, "a", .setLocalStorage, .completed⟩, ⟨1, "b", .getLocalStorage, .completed⟩] ∧
      ∃ report after,
        (Stage.run (.whole 2) flight.workflow).perform { store := .memory [("a", "b")] } = (.ok report, after) ∧
        ∀ number, number < flight.recording.playback.cursors.length →
          let trail := flight.recording.own number
          trail.steps = report.steps.take trail.advances ∧
          trail.dispatches.map (·.1) = flight.workflow.actions.take trail.steps.length := by
  refine ⟨_, List.head_mem begun_overlapping, by decide +kernel, ?_⟩
  exact play_reports_alone overlapping _ _ _ (by decide +kernel) rfl (List.head_mem begun_overlapping)
    (by decide +kernel)

end Pushbutton
