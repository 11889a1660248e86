import Pushbutton.Proofs.Run.Trace

/-! Moves of a cursor, and the phase of a run with several cursors: at most one of them stands between two
actions, and the run is under way exactly while one does. -/

set_option autoImplicit false

namespace Pushbutton

variable {σ ε : Type}

/-! ## One move of a cursor -/

def Cursor.suspended : Cursor → Bool
  | .paused _ _ _ => true
  | .fresh | .ended => false

/-- The moves of a cursor, with the calls that each of them makes. -/
inductive Cursor.Moves (delay : Seconds) (actions : List Action) (state : σ) :
    Cursor → Phase → Moved (σ × List (Made ε)) → Prop where
  | refused : Moves delay actions state .fresh .running
      ⟨.refused ⟨.running, .running⟩, .ended, .running, state, []⟩
  | empty : actions = [] → Moves delay actions state .fresh .idle ⟨.finished, .ended, .idle, state, []⟩
  | first {action : Action} {rest : List Action} (result : Except ε Outcome) (after : σ) :
      actions = action :: rest →
      Moves delay actions state .fresh .idle
        ⟨.step (Dispatched.toStep 0 (action, result)), .paused 1 (Dispatched.outcome (action, result)) rest,
          .running, after, [.dispatched action result]⟩
  | beyond (index : Nat) (rest : List Action) :
      Moves delay actions state (.paused index .terminated rest) .running
        ⟨.finished, .ended, .idle, state, []⟩
  | last {outcome : Outcome} (index : Nat) (after : σ) : outcome ≠ .terminated →
      Moves delay actions state (.paused index outcome []) .running
        ⟨.finished, .ended, .idle, after, [.slept delay]⟩
  | next {outcome : Outcome} (index : Nat) (action : Action) (rest : List Action)
      (result : Except ε Outcome) (after : σ) : outcome ≠ .terminated →
      Moves delay actions state (.paused index outcome (action :: rest)) .running
        ⟨.step (Dispatched.toStep index (action, result)),
          .paused (index + 1) (Dispatched.outcome (action, result)) rest, .running, after,
          [.slept delay, .dispatched action result]⟩
  | ended (phase : Phase) : Moves delay actions state .ended phase ⟨.finished, .ended, phase, state, []⟩

theorem Means.moves_next (means : Means σ ε) (delay : Seconds) (actions : List Action) (state : σ)
    {cursor : Cursor} {phase : Phase} (underWay : cursor.suspended = true → phase = .running) :
    cursor.Moves delay actions state phase
      (cursor.next (means.watched.performer delay) actions phase (state, [])) := by
  cases cursor with
  | fresh =>
    cases phase with
    | running => exact .refused
    | idle =>
      cases actions with
      | nil => exact .empty rfl
      | cons action rest =>
        obtain ⟨result, after, performed⟩ := means.perform_watched delay 0 action state []
        have moved : Cursor.fresh.next (means.watched.performer delay) (action :: rest) .idle (state, []) =
            ⟨.step (Dispatched.toStep 0 (action, result)),
              .paused 1 (Dispatched.outcome (action, result)) rest, .running, after,
              [.dispatched action result]⟩ := by
          simp only [Cursor.next, Phase.move, Cursor.resume, performed]
          rfl
        rw [moved]
        exact .first result after rfl
  | paused index outcome rest =>
    cases underWay rfl
    by_cases ends : outcome = .terminated
    · subst ends
      exact .beyond index rest
    · -- the pause comes first, whether or not an action is left
      have pauses : (means.watched.performer delay).pause (state, []) =
        (means.sleep delay state, [.slept delay]) := rfl
      rw [Cursor.next, if_neg ends, pauses]
      cases rest with
      | nil => exact .last index _ ends
      | cons action rest =>
        obtain ⟨result, after, performed⟩ :=
          means.perform_watched delay index action (means.sleep delay state) [.slept delay]
        rw [Cursor.resume, performed]
        exact .next index action rest result after ends
  | ended => exact .ended phase

theorem Cursor.close_eq {cursor : Cursor} {phase : Phase} (state : σ)
    (underWay : cursor.suspended = true → phase = .running) :
    cursor.close phase state =
      ⟨.finished, .ended, if cursor.suspended then .idle else phase, state⟩ := by
  cases cursor with
  | paused index outcome rest => cases underWay rfl; rfl
  | fresh | ended => rfl

/-! ## One phase for all cursors -/

namespace Playback

def Suspended (playback : Playback) (number : Nat) : Prop :=
  ∃ cursor, playback.cursors[number]? = some cursor ∧ cursor.suspended = true

structure Exclusive (playback : Playback) : Prop where
  running_iff : playback.phase = .running ↔ ∃ number, playback.Suspended number
  alone : ∀ {first second}, playback.Suspended first → playback.Suspended second → first = second

theorem Exclusive.underWay {playback : Playback} (exclusive : playback.Exclusive) {number : Nat}
    {cursor : Cursor} (found : playback.cursors[number]? = some cursor)
    (suspended : cursor.suspended = true) : playback.phase = .running :=
  exclusive.running_iff.mpr ⟨number, cursor, found, suspended⟩

theorem getElem?_start (playback : Playback) (number : Nat) :
    playback.start.cursors[number]? =
      if number = playback.cursors.length then some .fresh else playback.cursors[number]? := by
  unfold start
  split
  · next last => rw [last, List.getElem?_concat_length]
  · next other =>
    rw [List.getElem?_append]
    split
    · rfl
    · next beyond =>
      have past : [Cursor.fresh].length ≤ number - playback.cursors.length := by
        rw [List.length_singleton]
        omega
      rw [List.getElem?_eq_none past, List.getElem?_eq_none (Nat.le_of_not_lt beyond)]

theorem exclusive_start {playback : Playback} (exclusive : playback.Exclusive) :
    playback.start.Exclusive := by
  -- the new cursor has not been moved yet
  have same (number : Nat) : playback.start.Suspended number ↔ playback.Suspended number := by
    unfold Suspended
    rw [getElem?_start]
    split
    · next last => simp [last, Cursor.suspended]
    · rfl
  constructor
  · simp only [same]
    exact exclusive.running_iff
  · intro first second
    rw [same, same]
    exact exclusive.alone

/-- A cursor takes the run only when no other one has it, and gives it back. -/
structure Shares (cursor : Cursor) (phase : Phase) (moved : Moved σ) : Prop where
  phase_eq : moved.phase =
    if moved.cursor.suspended then .running else if cursor.suspended then .idle else phase
  takes : moved.cursor.suspended = true → cursor.suspended = true ∨ phase = .idle

theorem suspended_settle {playback : Playback} {number : Nat} {cursor : Cursor}
    (found : playback.cursors[number]? = some cursor) (moved : Moved σ) (other : Nat) :
    (playback.settle number moved).2.1.Suspended other ↔
      if number = other then moved.cursor.suspended = true else playback.Suspended other := by
  obtain ⟨inside, _⟩ := List.getElem?_eq_some_iff.mp found
  unfold Suspended settle
  simp only [List.getElem?_set]
  by_cases same : number = other
  · simp [same ▸ inside, same]
  · simp [same]

theorem Exclusive.free_of_suspended {playback : Playback} (exclusive : playback.Exclusive) {number other : Nat}
    {cursor : Cursor} (found : playback.cursors[number]? = some cursor) {moved : Moved σ}
    (shares : Shares cursor playback.phase moved) (suspended : playback.Suspended other)
    (apart : number ≠ other) : cursor.suspended = false ∧ moved.cursor.suspended = false := by
  have free : cursor.suspended = false :=
    Bool.eq_false_iff.mpr fun held => apart (exclusive.alone ⟨cursor, found, held⟩ suspended)
  refine ⟨free, Bool.eq_false_iff.mpr fun taken => ?_⟩
  have running := exclusive.running_iff.mpr ⟨other, suspended⟩
  rcases shares.takes taken with held | idle
  · rw [free] at held; cases held
  · rw [running] at idle; cases idle

theorem Exclusive.settle {playback : Playback} (exclusive : playback.Exclusive) {number : Nat}
    {cursor : Cursor} (found : playback.cursors[number]? = some cursor) {moved : Moved σ}
    (shares : Shares cursor playback.phase moved) : (playback.settle number moved).2.1.Exclusive := by
  have phase : (playback.settle number moved).2.1.phase = moved.phase := rfl
  constructor
  · simp only [phase, shares.phase_eq, suspended_settle found]
    constructor
    · intro running
      split at running
      · next taken => exact ⟨number, by simpa using taken⟩
      · next free =>
        split at running
        · cases running
        · next unheld =>
          obtain ⟨other, suspended⟩ := exclusive.running_iff.mp running
          have apart : number ≠ other := by
            rintro rfl
            obtain ⟨same, foundSame, held⟩ := suspended
            rw [found] at foundSame
            cases foundSame
            exact unheld held
          exact ⟨other, by rw [if_neg apart]; exact suspended⟩
    · rintro ⟨other, suspended⟩
      split at suspended
      · rw [if_pos suspended]
      · next apart =>
        obtain ⟨unheld, free⟩ := exclusive.free_of_suspended found shares suspended apart
        simp [unheld, free, exclusive.running_iff.mpr ⟨other, suspended⟩]
  · intro first second
    rw [suspended_settle found, suspended_settle found]
    intro one two
    by_cases here : number = first <;> by_cases there : number = second
    · exact here.symm.trans there
    · rw [if_pos here] at one
      rw [if_neg there] at two
      rw [(exclusive.free_of_suspended found shares two there).2] at one
      cases one
    · rw [if_neg here] at one
      rw [if_pos there] at two
      rw [(exclusive.free_of_suspended found shares one here).2] at two
      cases two
    · rw [if_neg here] at one
      rw [if_neg there] at two
      exact exclusive.alone one two

end Playback

theorem Cursor.Moves.shares {delay : Seconds} {actions : List Action} {state : σ} {cursor : Cursor}
    {phase : Phase} {moved : Moved (σ × List (Made ε))} (moves : cursor.Moves delay actions state phase moved) :
    Playback.Shares cursor phase moved := by
  cases moves <;> constructor <;> simp [suspended]

theorem Cursor.shares_close {cursor : Cursor} {phase : Phase} (state : σ)
    (underWay : cursor.suspended = true → phase = .running) :
    Playback.Shares cursor phase (cursor.close phase state) := by
  rw [close_eq state underWay]
  constructor <;> simp [suspended]

end Pushbutton
