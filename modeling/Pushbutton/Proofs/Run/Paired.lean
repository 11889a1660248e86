import Pushbutton.Run.Live

/-! Two performers side by side. Where each action comes to the same for both, whole runs come to the same. What
relates the two states may depend on the actions that are still to come. -/

set_option autoImplicit false

namespace Pushbutton

variable {σ τ ε : Type}

def Outcome.left (rest : List Action) (outcome : Outcome) : List Action :=
  if outcome = .terminated then [] else rest

def Cursor.left (actions : List Action) : Cursor → List Action
  | .fresh => actions
  | .paused _ outcome rest => outcome.left rest
  | .ended => []

def Performer.left (rest : List Action) : Except ε Outcome → List Action
  | .ok outcome => outcome.left rest
  | .error _ => rest

theorem Outcome.left_eq (rest : List Action) (outcome : Outcome) :
    outcome.left rest = rest ∨ outcome.left rest = [] := by
  unfold left
  split
  · exact .inr rfl
  · exact .inl rfl

theorem Outcome.left_subset (rest : List Action) (outcome : Outcome) : outcome.left rest ⊆ rest := by
  rcases outcome.left_eq rest with same | none
  · rw [same]
    exact List.Subset.refl _
  · rw [none]
    exact List.nil_subset _

theorem Performer.left_eq (rest : List Action) (result : Except ε Outcome) :
    left rest result = rest ∨ left rest result = [] := by
  cases result with
  | ok outcome => exact outcome.left_eq rest
  | error fault => exact .inl rfl

theorem Performer.left_subset (rest : List Action) (result : Except ε Outcome) : left rest result ⊆ rest := by
  cases result with
  | ok outcome => exact outcome.left_subset rest
  | error fault => exact List.Subset.refl _

/-- States that are related for the actions to come are so again after each of them, unless it ends with one of the
faults. -/
structure Performer.PairedUnless (lost : ε → Prop) (related : List Action → σ → τ → Prop) (one : Performer σ ε)
    (other : Performer τ ε) : Prop where
  dispatch : ∀ action rest first second, related (action :: rest) first second →
    (∀ fault, (one.dispatch action first).1 = .error fault → ¬ lost fault) →
    (∀ fault, (other.dispatch action second).1 = .error fault → ¬ lost fault) →
    (one.dispatch action first).1 = (other.dispatch action second).1 ∧
      related (left rest (one.dispatch action first).1) (one.dispatch action first).2
        (other.dispatch action second).2
  pause : ∀ ahead first second, related ahead first second → related ahead (one.pause first) (other.pause second)
  notice : ∀ notice ahead first second, related ahead first second →
    related ahead (one.notice notice first) (other.notice notice second)

structure Performer.Paired (related : List Action → σ → τ → Prop) (one : Performer σ ε) (other : Performer τ ε) :
    Prop where
  dispatch : ∀ action rest first second, related (action :: rest) first second →
    (one.dispatch action first).1 = (other.dispatch action second).1 ∧
      related (left rest (one.dispatch action first).1) (one.dispatch action first).2
        (other.dispatch action second).2
  pause : ∀ ahead first second, related ahead first second → related ahead (one.pause first) (other.pause second)
  notice : ∀ notice ahead first second, related ahead first second →
    related ahead (one.notice notice first) (other.notice notice second)

theorem Performer.paired_iff {related : List Action → σ → τ → Prop} {one : Performer σ ε} {other : Performer τ ε} :
    Paired related one other ↔ PairedUnless (fun _ => False) related one other := by
  constructor
  · intro paired
    exact ⟨fun action rest first second held _ _ => paired.dispatch action rest first second held, paired.pause,
      paired.notice⟩
  · intro paired
    refine ⟨fun action rest first second held => ?_, paired.pause, paired.notice⟩
    exact paired.dispatch action rest first second held (fun _ _ => id) fun _ _ => id

/-- The states are related whatever is still to come, as long as it is among these actions. -/
def Performer.Within (actions : List Action) (related : σ → τ → Prop) (ahead : List Action) (first : σ)
    (second : τ) : Prop := ahead ⊆ actions ∧ related first second

theorem Performer.Within.stop {actions ahead : List Action} {related : σ → τ → Prop} {first : σ} {second : τ}
    (within : Within actions related ahead first second) : Within actions related [] first second :=
  ⟨List.nil_subset _, within.2⟩

theorem Performer.PairedUnless.within {lost : ε → Prop} {related : σ → τ → Prop} {one : Performer σ ε}
    {other : Performer τ ε} {actions : List Action}
    (dispatch : ∀ action ∈ actions, ∀ first second, related first second →
      (∀ fault, (one.dispatch action first).1 = .error fault → ¬ lost fault) →
      (∀ fault, (other.dispatch action second).1 = .error fault → ¬ lost fault) →
      (one.dispatch action first).1 = (other.dispatch action second).1 ∧
        related (one.dispatch action first).2 (other.dispatch action second).2)
    (pause : ∀ first second, related first second → related (one.pause first) (other.pause second))
    (notice : ∀ notice first second, related first second →
      related (one.notice notice first) (other.notice notice second)) :
    PairedUnless lost (Within actions related) one other where
  dispatch := by
    rintro action rest first second ⟨inside, held⟩ avoids avoidsToo
    obtain ⟨member, others⟩ := List.cons_subset.mp inside
    obtain ⟨result, after⟩ := dispatch action member first second held avoids avoidsToo
    exact ⟨result, List.Subset.trans (left_subset rest _) others, after⟩
  pause := fun _ first second held => ⟨held.1, pause first second held.2⟩
  notice := fun _ _ first second held => ⟨held.1, notice _ first second held.2⟩

theorem Performer.Paired.within {related : σ → τ → Prop} {one : Performer σ ε} {other : Performer τ ε}
    {actions : List Action}
    (dispatch : ∀ action ∈ actions, ∀ first second, related first second →
      (one.dispatch action first).1 = (other.dispatch action second).1 ∧
        related (one.dispatch action first).2 (other.dispatch action second).2)
    (pause : ∀ first second, related first second → related (one.pause first) (other.pause second))
    (notice : ∀ notice first second, related first second →
      related (one.notice notice first) (other.notice notice second)) :
    Paired (Within actions related) one other :=
  paired_iff.mpr (.within (fun action member first second held _ _ => dispatch action member first second held)
    pause notice)

/-! ## How far a cursor goes -/

theorem Outcome.length_left_le (rest : List Action) (outcome : Outcome) :
    (outcome.left rest).length ≤ rest.length := by
  rcases outcome.left_eq rest with same | none
  · exact Nat.le_of_eq (congrArg List.length same)
  · rw [none]
    exact Nat.zero_le _

theorem Cursor.cursor_finish (phase : Phase) (state : σ) : (finish phase state).cursor = .ended := by
  unfold finish
  split <;> rfl

theorem Cursor.answer_finish (phase : Phase) (state : σ) (step : Step) :
    (finish phase state).answer ≠ .step step := by
  unfold finish
  split <;> nofun

/-- A move brings a cursor to its end without a step, or past one more action with one. -/
def Cursor.Advances (length : Nat) (moved : Moved σ) : Prop :=
  (moved.cursor = .ended ∧ ∀ step, moved.answer ≠ .step step) ∨
    ∃ step number outcome rest, moved.answer = .step step ∧ moved.cursor = .paused number outcome rest ∧
      rest.length < length

theorem Cursor.advances_resume (performer : Performer σ ε) (index : Nat) (phase : Phase) (state : σ)
    (rest : List Action) : Advances rest.length (resume performer index phase state rest) := by
  cases rest with
  | nil => exact .inl ⟨cursor_finish phase state, answer_finish phase state⟩
  | cons action rest => exact .inr ⟨_, _, _, _, rfl, rfl, Nat.lt_succ_self _⟩

theorem Cursor.advances_next (performer : Performer σ ε) (actions : List Action) (phase : Phase) (state : σ)
    (cursor : Cursor) : Advances (cursor.left actions).length (cursor.next performer actions phase state) := by
  cases cursor with
  | fresh =>
    simp only [next]
    cases phase with
    | idle => exact advances_resume ..
    | running =>
      refine .inl ⟨rfl, fun step same => ?_⟩
      cases same
  | paused index outcome rest =>
    simp only [next, left, Outcome.left]
    split
    · exact .inl ⟨cursor_finish phase state, answer_finish phase state⟩
    · exact advances_resume ..
  | ended =>
    refine .inl ⟨rfl, fun step same => ?_⟩
    cases same

theorem Cursor.ended_drain (performer : Performer σ ε) (actions : List Action) (moves : Nat) (cursor : Cursor)
    (phase : Phase) (state : σ) (enough : (cursor.left actions).length < moves) :
    (cursor.drain performer actions moves phase state).2.cursor = .ended := by
  -- on the moves, each of which leaves fewer actions
  induction moves generalizing cursor phase state with
  | zero => exact absurd enough (Nat.not_lt_zero _)
  | succ moves ih =>
    have advances := cursor.advances_next performer actions phase state
    unfold drain
    generalize cursor.next performer actions phase state = moved at advances ⊢
    obtain ⟨answer, after, phase, state⟩ := moved
    rcases advances with ⟨ended, none⟩ | ⟨step, number, outcome, rest, rfl, rfl, shorter⟩
    · cases answer with
      | step step => exact absurd rfl (none step)
      | finished | refused fault => exact ended
    · have fewer := outcome.length_left_le rest
      exact ih _ phase state (by simp only [left]; omega)

/-! ## Cursors side by side -/

structure Moved.Paired (related : List Action → σ → τ → Prop) (actions : List Action) (one : Moved σ)
    (other : Moved τ) : Prop where
  answer : one.answer = other.answer
  cursor : one.cursor = other.cursor
  phase : one.phase = other.phase
  state : related (one.cursor.left actions) one.state other.state

def Answer.Spares (lost : ε → Prop) (answer : Answer) : Prop :=
  ∀ step, answer = .step step → step.outcome = .failed → ∀ fault, ¬ lost fault

theorem Answer.spares_false (answer : Answer) : answer.Spares (fun _ : ε => False) := fun _ _ _ _ => id

namespace Performer

variable {lost : ε → Prop} {related : List Action → σ → τ → Prop} {one : Performer σ ε} {other : Performer τ ε}
  {actions : List Action} {first : σ} {second : τ}

theorem avoids_of_perform {index : Nat} {action : Action}
    (spares : (one.perform index action first).1 = .failed → ∀ fault, ¬ lost fault) (fault : ε)
    (failed : (one.dispatch action (one.notice (.dispatching index action) first)).1 = .error fault) :
    ¬ lost fault := by
  refine spares ?_ fault
  rcases performed : one.dispatch action (one.notice (.dispatching index action) first) with ⟨result, after⟩
  rw [performed] at failed
  dsimp only at failed
  simp only [perform, performed, failed]

theorem finish_paired (phase : Phase) (held : related [] first second) :
    Moved.Paired related actions (Cursor.finish phase first) (Cursor.finish phase second) := by
  unfold Cursor.finish
  split <;> exact ⟨rfl, rfl, rfl, held⟩

namespace PairedUnless

theorem perform (paired : PairedUnless lost related one other) {index : Nat} {action : Action} {rest : List Action}
    (held : related (action :: rest) first second)
    (spares : (one.perform index action first).1 = .failed → ∀ fault, ¬ lost fault)
    (sparesToo : (other.perform index action second).1 = .failed → ∀ fault, ¬ lost fault) :
    (one.perform index action first).1 = (other.perform index action second).1 ∧
      related ((one.perform index action first).1.left rest) (one.perform index action first).2
        (other.perform index action second).2 := by
  have noticed := paired.notice (.dispatching index action) _ _ _ held
  obtain ⟨same, after⟩ :=
    paired.dispatch action rest _ _ noticed (avoids_of_perform spares) (avoids_of_perform sparesToo)
  unfold Performer.perform
  dsimp only
  cases performed : one.dispatch action (one.notice (.dispatching index action) first) with
  | mk result left =>
    cases performedToo : other.dispatch action (other.notice (.dispatching index action) second) with
    | mk _ right =>
      rw [performed, performedToo] at same after
      cases same
      cases result with
      | ok outcome => exact ⟨rfl, after⟩
      | error fault => exact ⟨rfl, paired.notice _ _ _ _ after⟩

theorem resume (paired : PairedUnless lost related one other) {index : Nat} {phase : Phase} {rest : List Action}
    (held : related rest first second) (spares : (Cursor.resume one index phase first rest).answer.Spares lost)
    (sparesToo : (Cursor.resume other index phase second rest).answer.Spares lost) :
    Moved.Paired related actions (Cursor.resume one index phase first rest)
      (Cursor.resume other index phase second rest) := by
  cases rest with
  | nil => exact finish_paired phase held
  | cons action rest =>
    obtain ⟨outcome, after⟩ := paired.perform held (spares _ rfl) (sparesToo _ rfl)
    exact ⟨by simp only [Cursor.resume, outcome], by simp only [Cursor.resume, outcome], rfl, after⟩

/-- A cursor that is refused has come to its end with the actions still ahead. -/
theorem next (paired : PairedUnless lost related one other) (actions : List Action) (cursor : Cursor) (phase : Phase)
    (held : related (cursor.left actions) first second)
    (refused : cursor = .fresh → phase ≠ .idle → related [] first second)
    (spares : (cursor.next one actions phase first).answer.Spares lost)
    (sparesToo : (cursor.next other actions phase second).answer.Spares lost) :
    Moved.Paired related actions (cursor.next one actions phase first)
      (cursor.next other actions phase second) := by
  cases cursor with
  | fresh =>
    simp only [Cursor.next] at spares sparesToo ⊢
    cases phase with
    | idle => exact paired.resume held spares sparesToo
    | running => exact ⟨rfl, rfl, rfl, refused rfl nofun⟩
  | paused index outcome rest =>
    simp only [Cursor.left, Outcome.left] at held
    simp only [Cursor.next] at spares sparesToo ⊢
    split at held
    · next ends =>
      rw [if_pos ends, if_pos ends]
      exact finish_paired phase held
    · next goesOn =>
      rw [if_neg goesOn] at spares sparesToo ⊢
      rw [if_neg goesOn]
      exact paired.resume (paired.pause _ _ _ held) spares sparesToo
  | ended => exact ⟨rfl, rfl, rfl, held⟩

end PairedUnless

namespace Paired

theorem next (paired : Paired related one other) (actions : List Action) (cursor : Cursor) (phase : Phase)
    (held : related (cursor.left actions) first second)
    (refused : cursor = .fresh → phase ≠ .idle → related [] first second) :
    Moved.Paired related actions (cursor.next one actions phase first)
      (cursor.next other actions phase second) :=
  (paired_iff.mp paired).next actions cursor phase held refused (Answer.spares_false _) (Answer.spares_false _)

theorem close (cursor : Cursor) (phase : Phase) (held : related [] first second) :
    Moved.Paired related actions (cursor.close phase first) (cursor.close phase second) := by
  cases cursor with
  | paused index outcome rest => exact finish_paired phase held
  | fresh | ended => exact ⟨rfl, rfl, rfl, held⟩

theorem drain (paired : Paired related one other) (actions : List Action) (moves : Nat) (cursor : Cursor)
    (phase : Phase) (held : related (cursor.left actions) first second)
    (refused : cursor = .fresh → phase ≠ .idle → related [] first second) :
    (cursor.drain one actions moves phase first).1 = (cursor.drain other actions moves phase second).1 ∧
      Moved.Paired related actions (cursor.drain one actions moves phase first).2
        (cursor.drain other actions moves phase second).2 := by
  -- on the moves: each leads to cursors that stand at the same place, over states related for what is left
  induction moves generalizing cursor phase first second with
  | zero => exact ⟨rfl, rfl, rfl, rfl, held⟩
  | succ moves ih =>
    have moved := paired.next actions cursor phase held refused
    have advances := cursor.advances_next one actions phase first
    unfold Cursor.drain
    generalize cursor.next one actions phase first = left at moved advances ⊢
    generalize cursor.next other actions phase second = right at moved ⊢
    obtain ⟨answer, cursor, phase, first⟩ := left
    obtain ⟨_, _, _, second⟩ := right
    obtain ⟨rfl, rfl, rfl, after⟩ := moved
    cases answer with
    | step step =>
      have begun : cursor ≠ .fresh := by
        rintro rfl
        rcases advances with ⟨_, none⟩ | ⟨_, _, _, _, _, paused, _⟩
        · exact none step rfl
        · cases paused
      obtain ⟨steps, last⟩ := ih cursor phase after fun fresh => absurd fresh begun
      exact ⟨congrArg (step :: ·) steps, last⟩
    | finished | refused fault => exact ⟨rfl, rfl, rfl, rfl, after⟩

theorem run (paired : Paired related one other) (workflow : Workflow)
    (held : related workflow.actions first second) :
    (one.run workflow first).1 = (other.run workflow second).1 ∧
      (one.run workflow first).2.1 = (other.run workflow second).2.1 ∧
      related [] (one.run workflow first).2.2 (other.run workflow second).2.2 := by
  have started := paired.notice (.started workflow.actions.length) _ _ _ held
  obtain ⟨steps, last⟩ := paired.drain workflow.actions (workflow.actions.length + 1) .fresh .idle started
    fun _ busy => absurd rfl busy
  have ended := Cursor.ended_drain one workflow.actions (workflow.actions.length + 1) .fresh .idle
    (one.notice (.started workflow.actions.length) first) (Nat.lt_succ_self _)
  have state := last.state
  rw [ended] at state
  refine ⟨congrArg Report.mk steps, last.phase, ?_⟩
  unfold Performer.run
  dsimp only
  rw [steps]
  exact paired.notice _ _ _ _ state

end Paired

end Performer

end Pushbutton
