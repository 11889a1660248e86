import Mathlib.Data.List.TakeWhile
import Pushbutton.Proofs.Run.Cursor

/-! What was done with one cursor, and what that says of its place among the actions. -/

set_option autoImplicit false

namespace Pushbutton

/-- What can be done with the cursors of a run, which are numbered as they are made. -/
inductive Operation where
  | start
  | next (number : Nat)
  | close (number : Nat)
  deriving DecidableEq, Repr

variable {σ ε : Type}

namespace Operation

def number? : Operation → Option Nat
  | .start => none
  | .next number | .close number => some number

def act (performer : Performer σ ε) (playback : Playback) (state : σ) :
    Operation → Option Answer × Playback × σ
  | .start => (none, playback.start, state)
  | .next number => (playback.next performer number state).map some id
  | .close number => (playback.close number state).map some id

end Operation

structure Entry (ε : Type) where
  operation : Operation
  answer : Option Answer
  made : List (Made ε)

/-! ## The calls behind a cursor -/

/-- Dispatches of the first actions, none of which ended the run but perhaps the last; and the actions
that are left. -/
inductive Playing (actions : List Action) : List (Dispatched ε) → List Action → Prop where
  | nil : Playing actions [] actions
  | snoc {dispatches : List (Dispatched ε)} {action : Action} {rest : List Action}
      (result : Except ε Outcome) : Playing actions dispatches (action :: rest) →
      (∀ last ∈ dispatches.getLast?, last.outcome ≠ .terminated) →
      Playing actions (dispatches ++ [(action, result)]) rest

theorem Playing.actions_eq {actions rest : List Action} {dispatches : List (Dispatched ε)}
    (playing : Playing actions dispatches rest) : dispatches.map (·.1) ++ rest = actions := by
  induction playing with
  | nil => rfl
  | snoc result _ _ ih => simpa using ih

theorem Playing.take_eq {actions rest : List Action} {dispatches : List (Dispatched ε)}
    (playing : Playing actions dispatches rest) :
    dispatches.map (·.1) = actions.take dispatches.length := by
  rw [← playing.actions_eq, List.take_left' (List.length_map _)]

namespace Entry

def advances (entry : Entry ε) : Bool :=
  match entry.operation, entry.answer with
  | .next _, some (.refused _) => false
  | .next _, _ => true
  | .start, _ | .close _, _ => false

def step? (entry : Entry ε) : Option Step :=
  match entry.answer with
  | some (.step step) => some step
  | _ => none

end Entry

def Made.dispatched? : Made ε → Option (Dispatched ε)
  | .dispatched action result => some (action, result)
  | .slept _ => none

def Made.dispatches (made : List (Made ε)) : List (Dispatched ε) := made.filterMap Made.dispatched?

def Made.pauses (made : List (Made ε)) : Nat := made.countP fun call => call.dispatched?.isNone

namespace Made

@[simp] theorem dispatches_nil : dispatches ([] : List (Made ε)) = [] := rfl

@[simp] theorem dispatches_dispatched (action : Action) (result : Except ε Outcome) (made : List (Made ε)) :
    dispatches (.dispatched action result :: made) = (action, result) :: dispatches made := rfl

@[simp] theorem dispatches_slept (delay : Seconds) (made : List (Made ε)) :
    dispatches (.slept delay :: made) = dispatches made := rfl

@[simp] theorem dispatches_append (first second : List (Made ε)) :
    dispatches (first ++ second) = dispatches first ++ dispatches second := List.filterMap_append

@[simp] theorem pauses_nil : pauses ([] : List (Made ε)) = 0 := rfl

@[simp] theorem pauses_dispatched (action : Action) (result : Except ε Outcome) (made : List (Made ε)) :
    pauses (.dispatched action result :: made) = pauses made := by
  simp [pauses, dispatched?]

@[simp] theorem pauses_slept (delay : Seconds) (made : List (Made ε)) :
    pauses (.slept delay :: made) = pauses made + 1 := by
  simp [pauses, dispatched?]

end Made

theorem Dispatched.indices (dispatches : List (Dispatched ε)) :
    (dispatches.mapIdx toStep).map (·.index) = List.range (dispatches.mapIdx toStep).length := by
  apply List.ext_getElem
  · simp
  · intro index inside _
    simp [toStep]

abbrev Trail (ε : Type) := List (Entry ε)

namespace Trail

def steps (trail : Trail ε) : List Step := trail.filterMap Entry.step?

def made (trail : Trail ε) : List (Made ε) := trail.flatMap Entry.made

def dispatches (trail : Trail ε) : List (Dispatched ε) := Made.dispatches trail.made

def pauses (trail : Trail ε) : Nat := Made.pauses trail.made

theorem mem_dispatches {trail : Trail ε} {dispatched : Dispatched ε} :
    dispatched ∈ trail.dispatches ↔ ∃ entry ∈ trail, dispatched ∈ Made.dispatches entry.made := by
  simp only [dispatches, Made.dispatches, made, List.mem_filterMap, List.mem_flatMap]
  constructor
  · rintro ⟨call, ⟨entry, member, inside⟩, same⟩
    exact ⟨entry, member, call, inside, same⟩
  · rintro ⟨entry, member, call, inside, same⟩
    exact ⟨call, ⟨entry, member, inside⟩, same⟩

/-- How often the cursor was advanced before it was first closed or refused. -/
def advances (trail : Trail ε) : Nat := (trail.takeWhile Entry.advances).length

@[simp] theorem steps_concat (trail : Trail ε) (entry : Entry ε) :
    steps (trail ++ [entry]) = trail.steps ++ entry.step?.toList := by
  cases found : entry.step? <;> simp [steps, found]

@[simp] theorem dispatches_concat (trail : Trail ε) (entry : Entry ε) :
    dispatches (trail ++ [entry]) = trail.dispatches ++ Made.dispatches entry.made := by
  simp [dispatches, Made.dispatches, made]

@[simp] theorem pauses_concat (trail : Trail ε) (entry : Entry ε) :
    pauses (trail ++ [entry]) = trail.pauses + Made.pauses entry.made := by
  simp [pauses, Made.pauses, made]

theorem advances_of_all {trail : Trail ε} (all : ∀ entry ∈ trail, entry.advances = true) :
    trail.advances = trail.length := by
  rw [advances, List.takeWhile_eq_self_iff.mpr all]

theorem advances_concat (trail : Trail ε) (entry : Entry ε) :
    trail.advances ≤ advances (trail ++ [entry]) := by
  unfold advances
  rw [List.takeWhile_append]
  split <;> simp_all

theorem advances_concat_stop (trail : Trail ε) {entry : Entry ε} (stops : entry.advances = false) :
    advances (trail ++ [entry]) = trail.advances := by
  unfold advances
  rw [List.takeWhile_append]
  split <;> simp_all

theorem advances_concat_of_stopped {trail : Trail ε} (stopped : ∃ entry ∈ trail, entry.advances = false)
    (entry : Entry ε) : advances (trail ++ [entry]) = trail.advances := by
  obtain ⟨stop, member, stops⟩ := stopped
  have short : (trail.takeWhile Entry.advances).length ≠ trail.length := by
    intro whole
    have all := List.takeWhile_eq_self_iff.mp (List.takeWhile_sublist _ |>.eq_of_length whole)
    rw [all stop member] at stops
    cases stops
  unfold advances
  rw [List.takeWhile_append, if_neg short]

end Trail

inductive Cursor.Place (actions : List Action) (trail : Trail ε) : Cursor → Prop where
  | fresh : trail = [] → Place actions trail .fresh
  | paused {index : Nat} {outcome : Outcome} {rest : List Action} (last : Dispatched ε) :
      Playing actions trail.dispatches rest → trail.dispatches.length = index →
      trail.dispatches.getLast? = some last → last.outcome = outcome →
      (∀ entry ∈ trail, entry.advances = true) → trail.length = index → trail.pauses + 1 = index →
      Place actions trail (.paused index outcome rest)
  | stopped {rest : List Action} : Playing actions trail.dispatches rest →
      (∃ entry ∈ trail, entry.advances = false) → trail.advances = trail.dispatches.length →
      Place actions trail .ended
  | finished {rest : List Action} : Playing actions trail.dispatches rest →
      (rest = [] ∨ ∃ last ∈ trail.dispatches.getLast?, last.outcome = .terminated) →
      trail.dispatches.length ≤ trail.advances → Place actions trail .ended

/-- The steps that a cursor gave are those of its dispatches, and it stands where these left it. -/
structure Cursor.Follows (actions : List Action) (trail : Trail ε) (cursor : Cursor) : Prop where
  steps : trail.steps = trail.dispatches.mapIdx Dispatched.toStep
  place : cursor.Place actions trail

namespace Cursor.Follows

variable {actions : List Action} {trail : Trail ε} {cursor : Cursor}

theorem fresh : Cursor.fresh.Follows actions ([] : Trail ε) := ⟨rfl, .fresh rfl⟩

theorem playing (follows : cursor.Follows actions trail) :
    ∃ rest, Playing actions trail.dispatches rest := by
  cases follows.place with
  | fresh none => subst none; exact ⟨actions, .nil⟩
  | paused _ playing => exact ⟨_, playing⟩
  | stopped playing => exact ⟨_, playing⟩
  | finished playing => exact ⟨_, playing⟩

/-- A suspended cursor comes to its end, either for want of actions or since the last one ended the run. -/
theorem finish {index : Nat} {outcome : Outcome} {rest : List Action}
    (follows : (Cursor.paused index outcome rest).Follows actions trail)
    (ends : rest = [] ∨ outcome = .terminated) {entry : Entry ε} (silent : entry.step? = none)
    (still : Made.dispatches entry.made = []) : Cursor.ended.Follows actions (trail ++ [entry]) := by
  obtain ⟨steps, place⟩ := follows
  have same : Trail.dispatches (trail ++ [entry]) = trail.dispatches := by simp [still]
  cases place with
  | paused last playing count found outcome all length pauses =>
    refine ⟨by simpa [silent, still] using steps, .finished (same ▸ playing) ?_ ?_⟩
    · rw [same]
      exact ends.imp id fun terminated => ⟨last, found, outcome.trans terminated⟩
    · have advanced := trail.advances_concat entry
      rw [Trail.advances_of_all all, length] at advanced
      rw [same, count]
      exact advanced

theorem advance {index : Nat} {outcome : Outcome} {action : Action} {rest : List Action}
    (follows : (Cursor.paused index outcome (action :: rest)).Follows actions trail)
    (goesOn : outcome ≠ .terminated) (number : Nat) (delay : Seconds) (result : Except ε Outcome) :
    (Cursor.paused (index + 1) (Dispatched.outcome (action, result)) rest).Follows actions
      (trail ++ [⟨.next number, some (.step (Dispatched.toStep index (action, result))),
        [.slept delay, .dispatched action result]⟩]) := by
  obtain ⟨steps, place⟩ := follows
  cases place with
  | paused last playing count found outcome all length pauses =>
    have goesOnLast : ∀ last ∈ trail.dispatches.getLast?, last.outcome ≠ .terminated := by
      rw [found]
      rintro _ ⟨⟩
      rw [outcome]
      exact goesOn
    constructor
    · simp [Entry.step?, steps, List.mapIdx_append, count]
    · refine .paused (action, result) (by simpa using playing.snoc result goesOnLast) ?_ ?_ rfl ?_ ?_ ?_
      · simp [count]
      · simp
      · intro entry member
        rcases List.mem_append.mp member with before | new
        · exact all entry before
        · rw [List.mem_singleton.mp new]
          rfl
      · simp [length]
      · simp [pauses]

theorem next (follows : cursor.Follows actions trail) (number : Nat) {delay : Seconds} {state : σ}
    {phase : Phase} {moved : Moved (σ × List (Made ε))}
    (moves : cursor.Moves delay actions state phase moved) :
    moved.cursor.Follows actions (trail ++ [⟨.next number, some moved.answer, moved.state.2⟩]) := by
  cases moves with
  | refused =>
    cases follows.place with
    | fresh none =>
      subst none
      exact ⟨rfl, .stopped .nil ⟨_, List.mem_singleton_self _, rfl⟩ rfl⟩
  | empty none =>
    cases follows.place with
    | fresh untouched =>
      subst none untouched
      exact ⟨rfl, .finished .nil (.inl rfl) (Nat.zero_le _)⟩
  | first result after found =>
    cases follows.place with
    | fresh none =>
      subst none found
      refine ⟨rfl, .paused _ (.snoc result .nil (by simp)) rfl rfl rfl ?_ rfl rfl⟩
      simp [Entry.advances]
  | beyond index rest => exact follows.finish (.inr rfl) rfl rfl
  | last index after goesOn => exact follows.finish (.inl rfl) rfl rfl
  | next index action rest result after goesOn => exact follows.advance goesOn number delay result
  | ended =>
    obtain ⟨steps, place⟩ := follows
    cases place with
    | stopped playing stopped advances =>
      obtain ⟨stop, member, stops⟩ := stopped
      refine ⟨by simpa [Entry.step?] using steps,
        .stopped (by simpa using playing) ⟨stop, List.mem_append_left _ member, stops⟩ ?_⟩
      rw [Trail.advances_concat_of_stopped ⟨stop, member, stops⟩]
      simpa using advances
    | finished playing whole advances =>
      refine ⟨by simpa [Entry.step?] using steps,
        .finished (by simpa using playing) (by simpa using whole) ?_⟩
      exact Nat.le_trans (by simpa using advances) (trail.advances_concat _)

theorem close (follows : cursor.Follows actions trail) (number : Nat) :
    Cursor.ended.Follows actions (trail ++ [⟨.close number, some .finished, []⟩]) := by
  obtain ⟨steps, place⟩ := follows
  have stops : ∃ entry ∈ trail ++ [⟨.close number, some .finished, []⟩], entry.advances = false :=
    ⟨_, List.mem_append_right _ (List.mem_singleton_self _), rfl⟩
  refine ⟨by simpa [Entry.step?] using steps, ?_⟩
  cases place with
  | fresh none =>
    subst none
    exact .stopped .nil stops rfl
  | paused last playing count found outcome all length pauses =>
    refine .stopped (by simpa using playing) stops ?_
    rw [Trail.advances_concat_stop _ rfl, Trail.advances_of_all all]
    simpa [count] using length
  | stopped playing stopped advances =>
    refine .stopped (by simpa using playing) stops ?_
    rw [Trail.advances_concat_of_stopped stopped]
    simpa using advances
  | finished playing whole advances =>
    refine .finished (by simpa using playing) (by simpa using whole) ?_
    exact Nat.le_trans (by simpa using advances) (trail.advances_concat _)

end Cursor.Follows

end Pushbutton
