import Pushbutton.Run.Outcome
import Pushbutton.Run.Phase

/-! A run: the actions of a workflow one after another, with a pause after each. A cursor walks the
actions on demand; while one is between two actions the run is under way and no other can start. -/

set_option autoImplicit false

namespace Pushbutton

inductive Notice (ε : Type) where
  | started (actions : Nat)
  | dispatching (index : Nat) (action : Action)
  | failed (index : Nat) (action : Action) (fault : ε)
  | finished (steps : Nat) (terminated : Bool)

/-- How a run acts on a state: how actions are dispatched, what a pause is, and where notices go. -/
structure Performer (σ ε : Type) where
  dispatch : Action → σ → Except ε Outcome × σ
  pause : σ → σ
  notice : Notice ε → σ → σ

namespace Performer

variable {σ ε : Type}

/-- A fault of one action is noted and becomes its outcome. -/
def perform (performer : Performer σ ε) (index : Nat) (action : Action) (state : σ) :
    Outcome × σ :=
  let state := performer.notice (.dispatching index action) state
  match performer.dispatch action state with
  | (.ok outcome, state) => (outcome, state)
  | (.error fault, state) => (.failed, performer.notice (.failed index action fault) state)

end Performer

/-- Where a cursor stands: before the first action, after an action with the ones that follow it, or
at its end. -/
inductive Cursor where
  | fresh
  | paused (next : Nat) (outcome : Outcome) (rest : List Action)
  | ended
  deriving DecidableEq, Repr

inductive Answer where
  | step (step : Step)
  | finished
  | refused (fault : IllegalTransition)
  deriving DecidableEq, Repr

structure Moved (σ : Type) where
  answer : Answer
  cursor : Cursor
  phase : Phase
  state : σ

namespace Cursor

variable {σ ε : Type}

/-- A cursor that comes to its end leaves its run idle. -/
def finish (phase : Phase) (state : σ) : Moved σ :=
  match phase.move .idle with
  | .ok phase => ⟨.finished, .ended, phase, state⟩
  -- another cursor has brought the run to its end already
  | .error fault => ⟨.refused fault, .ended, phase, state⟩

def resume (performer : Performer σ ε) (index : Nat) (phase : Phase) (state : σ) :
    List Action → Moved σ
  | [] => finish phase state
  | action :: rest =>
    let (outcome, state) := performer.perform index action state
    ⟨.step ⟨index, action.id, action.kind, outcome⟩, .paused (index + 1) outcome rest, phase, state⟩

/-- The pause after an action comes when the next one is asked for. -/
def next (performer : Performer σ ε) (actions : List Action) (phase : Phase) (state : σ) :
    Cursor → Moved σ
  | .fresh =>
    match phase.move .running with
    | .ok phase => resume performer 0 phase state actions
    | .error fault => ⟨.refused fault, .ended, phase, state⟩
  | .paused index outcome rest =>
    -- no pause follows an action that ended the page
    if outcome = .terminated then finish phase state
    else resume performer index phase (performer.pause state) rest
  | .ended => ⟨.finished, .ended, phase, state⟩

def close (phase : Phase) (state : σ) : Cursor → Moved σ
  | .paused _ _ _ => finish phase state
  | .fresh | .ended => ⟨.finished, .ended, phase, state⟩

def drain (performer : Performer σ ε) (actions : List Action) :
    Nat → Cursor → Phase → σ → List Step × Moved σ
  | 0, cursor, phase, state => ([], ⟨.finished, cursor, phase, state⟩)
  | moves + 1, cursor, phase, state =>
    let moved := cursor.next performer actions phase state
    match moved.answer with
    | .step step =>
      let (steps, last) := drain performer actions moves moved.cursor moved.phase moved.state
      (step :: steps, last)
    | .finished | .refused _ => ([], moved)

end Cursor

structure Playback where
  actions : List Action
  phase : Phase := .idle
  cursors : List Cursor := []
  deriving DecidableEq, Repr

namespace Playback

variable {σ ε : Type}

def start (playback : Playback) : Playback :=
  { playback with cursors := playback.cursors ++ [.fresh] }

def settle (playback : Playback) (number : Nat) (moved : Moved σ) : Answer × Playback × σ :=
  (moved.answer,
    { playback with phase := moved.phase, cursors := playback.cursors.set number moved.cursor },
    moved.state)

/-- A number that no cursor has stands for one at its end. -/
def next (performer : Performer σ ε) (playback : Playback) (number : Nat) (state : σ) :
    Answer × Playback × σ :=
  let cursor := playback.cursors.getD number .ended
  playback.settle number (cursor.next performer playback.actions playback.phase state)

def close (playback : Playback) (number : Nat) (state : σ) : Answer × Playback × σ :=
  let cursor := playback.cursors.getD number .ended
  playback.settle number (cursor.close playback.phase state)

end Playback

namespace Performer

variable {σ ε : Type}

/-- A whole run: a fresh cursor moved to its end, between two notices. -/
def run (performer : Performer σ ε) (workflow : Workflow) (state : σ) : Report × Phase × σ :=
  let state := performer.notice (.started workflow.actions.length) state
  let (steps, last) :=
    Cursor.drain performer workflow.actions (workflow.actions.length + 1) .fresh .idle state
  let report : Report := ⟨steps⟩
  (report, last.phase, performer.notice (.finished report.steps.length report.terminated) last.state)

end Performer

end Pushbutton
