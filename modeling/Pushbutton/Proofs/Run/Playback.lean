import Pushbutton.Proofs.Run.Trail

/-! Several cursors over one run. Whichever of them are made, moved and closed, and in whatever order, at
most one stands between two actions, and the run is under way exactly while one does. -/

set_option autoImplicit false

namespace Pushbutton

variable {σ ε : Type}

structure Recording (ε : Type) where
  delay : Seconds
  playback : Playback
  past : List (Entry ε) := []

namespace Recording

def acted (means : Means σ ε) (recording : Recording ε) (operation : Operation) (state : σ) :
    Entry ε × Playback × σ :=
  let (answer, playback, state, made) :=
    operation.act (means.watched.performer recording.delay) recording.playback (state, [])
  (⟨operation, answer, made⟩, playback, state)

def act (means : Means σ ε) (recording : Recording ε) (operation : Operation) (state : σ) :
    Recording ε × σ :=
  if ∀ number ∈ operation.number?, number < recording.playback.cursors.length then
    let (entry, playback, state) := recording.acted means operation state
    ({ recording with playback, past := recording.past ++ [entry] }, state)
  else (recording, state)

def play (means : Means σ ε) : List Operation → Recording ε → σ → Recording ε × σ
  | [], recording, state => (recording, state)
  | operation :: rest, recording, state =>
    let (recording, state) := recording.act means operation state
    play means rest recording state

def ofActions (delay : Seconds) (actions : List Action) : Recording ε := ⟨delay, { actions }, []⟩

end Recording

/-! ## Many cursors and many operations -/

namespace Recording

def own (recording : Recording ε) (number : Nat) : Trail ε :=
  recording.past.filter fun entry => entry.operation.number? == some number

/-- A recording that operations have led to. -/
structure Sound (recording : Recording ε) : Prop where
  exclusive : recording.playback.Exclusive
  follows : ∀ {number : Nat} {cursor : Cursor}, recording.playback.cursors[number]? = some cursor →
    cursor.Follows recording.playback.actions (recording.own number)
  unmade : ∀ {number : Nat}, recording.playback.cursors[number]? = none → recording.own number = []

variable {means : Means σ ε} {recording : Recording ε}

theorem sound_ofActions (delay : Seconds) (actions : List Action) :
    (ofActions delay actions : Recording ε).Sound := by
  have none (number : Nat) : ¬ (ofActions delay actions : Recording ε).playback.Suspended number := by
    rintro ⟨cursor, found, _⟩
    cases found
  refine ⟨⟨⟨fun running => ?_, ?_⟩, ?_⟩, ?_, fun _ => rfl⟩
  · cases running
  · rintro ⟨number, suspended⟩
    exact absurd suspended (none number)
  · intro first second suspended
    exact absurd suspended (none first)
  · intro number cursor found
    cases found

theorem acted_next {number : Nat} {cursor : Cursor} (found : recording.playback.cursors[number]? = some cursor)
    (state : σ) :
    recording.acted means (.next number) state =
      let moved := cursor.next (means.watched.performer recording.delay) recording.playback.actions
        recording.playback.phase (state, [])
      (⟨.next number, some moved.answer, moved.state.2⟩, (recording.playback.settle number moved).2.1,
        moved.state.1) := by
  simp only [acted, Operation.act, Playback.next, List.getD, found, Option.getD_some]
  rfl

theorem acted_close {number : Nat} {cursor : Cursor} (found : recording.playback.cursors[number]? = some cursor)
    (state : σ) :
    recording.acted means (.close number) state =
      let moved := cursor.close recording.playback.phase (state, ([] : List (Made ε)))
      (⟨.close number, some moved.answer, moved.state.2⟩, (recording.playback.settle number moved).2.1,
        moved.state.1) := by
  simp only [acted, Operation.act, Playback.close, List.getD, found, Option.getD_some]
  rfl

theorem own_concat (entry : Entry ε) (playback : Playback) (number : Nat) :
    own { recording with playback, past := recording.past ++ [entry] } number =
      if entry.operation.number? = some number then recording.own number ++ [entry]
      else recording.own number := by
  unfold own
  split <;> simp_all

theorem Sound.start (sound : recording.Sound) (answer : Option Answer) (made : List (Made ε)) :
    Sound { recording with
      playback := recording.playback.start, past := recording.past ++ [⟨.start, answer, made⟩] } := by
  have same (number : Nat) : own { recording with
      playback := recording.playback.start, past := recording.past ++ [⟨.start, answer, made⟩] } number =
      recording.own number := by
    rw [own_concat, if_neg (by simp [Operation.number?])]
  refine ⟨Playback.exclusive_start sound.exclusive, ?_, ?_⟩
  · intro number cursor found
    rw [same]
    rw [Playback.getElem?_start] at found
    split at found
    · next last =>
      cases found
      rw [sound.unmade (by simp [last])]
      exact .fresh
    · exact sound.follows found
  · intro number none
    rw [same]
    rw [Playback.getElem?_start] at none
    split at none
    · cases none
    · exact sound.unmade none

theorem Sound.settle (sound : recording.Sound) {number : Nat} {cursor : Cursor}
    (found : recording.playback.cursors[number]? = some cursor) {entry : Entry ε}
    (concerned : entry.operation.number? = some number) {moved : Moved σ}
    (shares : Playback.Shares cursor recording.playback.phase moved)
    (follows : moved.cursor.Follows recording.playback.actions (recording.own number ++ [entry])) :
    Sound { recording with
      playback := (recording.playback.settle number moved).2.1, past := recording.past ++ [entry] } := by
  refine ⟨sound.exclusive.settle found shares, ?_, ?_⟩
  · intro other there at_
    simp only [Playback.settle, List.getElem?_set] at at_
    rw [own_concat, concerned]
    by_cases same : number = other
    · subst same
      obtain ⟨inside, _⟩ := List.getElem?_eq_some_iff.mp found
      rw [if_pos rfl, if_pos inside] at at_
      cases at_
      rw [if_pos rfl]
      exact follows
    · rw [if_neg same] at at_
      rw [if_neg (by simpa using same)]
      exact sound.follows at_
  · intro other none
    simp only [Playback.settle, List.getElem?_set] at none
    rw [own_concat, concerned]
    by_cases same : number = other
    · subst same
      simp_all
    · rw [if_neg same] at none
      rw [if_neg (by simpa using same)]
      exact sound.unmade none

theorem Sound.act (means : Means σ ε) (sound : recording.Sound) (operation : Operation) (state : σ) :
    (recording.act means operation state).1.Sound := by
  unfold Recording.act
  split
  · next possible =>
    cases operation with
    | start => exact sound.start _ _
    | next number =>
      have found := List.getElem?_eq_getElem (possible number rfl)
      have moves := means.moves_next recording.delay recording.playback.actions state
        (sound.exclusive.underWay found)
      simp only [acted_next found]
      exact sound.settle found rfl moves.shares ((sound.follows found).next number moves)
    | close number =>
      have found := List.getElem?_eq_getElem (possible number rfl)
      have underWay := sound.exclusive.underWay found
      simp only [acted_close found]
      refine sound.settle found rfl (Cursor.shares_close _ underWay) ?_
      rw [Cursor.close_eq _ underWay]
      exact (sound.follows found).close number
  · exact sound

theorem Sound.play (means : Means σ ε) (sound : recording.Sound) (operations : List Operation) (state : σ) :
    (recording.play means operations state).1.Sound := by
  induction operations generalizing recording state with
  | nil => exact sound
  | cons operation rest ih => exact ih (sound.act means operation state) _

/-! ## What the operations do -/

theorem Sound.moves (means : Means σ ε) (sound : recording.Sound) {number : Nat} {cursor : Cursor}
    (found : recording.playback.cursors[number]? = some cursor) (state : σ) :
    ∃ moved : Moved (σ × List (Made ε)),
      cursor.Moves recording.delay recording.playback.actions state recording.playback.phase moved ∧
      recording.acted means (.next number) state =
        (⟨.next number, some moved.answer, moved.state.2⟩,
          (recording.playback.settle number moved).2.1, moved.state.1) :=
  ⟨_, means.moves_next _ _ _ (sound.exclusive.underWay found), acted_next found state⟩

theorem Sound.closes (sound : recording.Sound) {number : Nat} {cursor : Cursor}
    (found : recording.playback.cursors[number]? = some cursor) (state : σ) :
    recording.acted means (.close number) state =
      (⟨.close number, some .finished, []⟩,
        { recording.playback with
          phase := if cursor.suspended then .idle else recording.playback.phase
          cursors := recording.playback.cursors.set number .ended }, state) := by
  rw [acted_close found, Cursor.close_eq _ (sound.exclusive.underWay found)]
  rfl

/-- A cursor that may not start ends, without a call and with all else as it was. -/
theorem Sound.refused (sound : recording.Sound) {number other : Nat}
    (fresh : recording.playback.cursors[number]? = some .fresh)
    (suspended : recording.playback.Suspended other) (state : σ) :
    recording.acted means (.next number) state =
      (⟨.next number, some (.refused ⟨.running, .running⟩), []⟩,
        { recording.playback with cursors := recording.playback.cursors.set number .ended }, state) := by
  obtain ⟨moved, moves, acted⟩ := sound.moves means fresh state
  rw [acted]
  have running := sound.exclusive.running_iff.mpr ⟨other, suspended⟩
  generalize phase : recording.playback.phase = before at moves
  cases moves with
  | refused => simp [Playback.settle, running]
  | empty | first => rw [running] at phase; cases phase

/-- Nothing is refused but the start of a cursor while another one is suspended. -/
theorem Sound.of_refused (sound : recording.Sound) {operation : Operation} {state : σ}
    {fault : IllegalTransition}
    (answer : (recording.acted means operation state).1.answer = some (.refused fault)) :
    ∃ number other, operation = .next number ∧ recording.playback.cursors[number]? = some .fresh ∧
      other ≠ number ∧ recording.playback.Suspended other := by
  cases operation with
  | start => cases answer
  | next number =>
    cases found : recording.playback.cursors[number]? with
    | none =>
      simp only [acted, Operation.act, Playback.next, List.getD, found] at answer
      cases answer
    | some cursor =>
      obtain ⟨moved, moves, acted⟩ := sound.moves means found state
      rw [acted] at answer
      generalize phase : recording.playback.phase = before at moves
      cases moves with
      | refused =>
        obtain ⟨other, suspended⟩ := sound.exclusive.running_iff.mp phase
        refine ⟨number, other, rfl, found, ?_, suspended⟩
        rintro rfl
        obtain ⟨same, there, held⟩ := suspended
        rw [found] at there
        cases there
        cases held
      | _ => cases answer
  | close number =>
    cases found : recording.playback.cursors[number]? with
    | none =>
      simp only [acted, Operation.act, Playback.close, List.getD, found] at answer
      cases answer
    | some cursor => rw [sound.closes found] at answer; cases answer

theorem Sound.continues (sound : recording.Sound) {number : Nat}
    (suspended : recording.playback.Suspended number) (state : σ) :
    (recording.acted means (.next number) state).1.answer = some .finished ∨
    ∃ step, (recording.acted means (.next number) state).1.answer = some (.step step) ∧
      step.index = (recording.own number).steps.length := by
  obtain ⟨cursor, found, held⟩ := suspended
  obtain ⟨moved, moves, acted⟩ := sound.moves means found state
  obtain ⟨steps, place⟩ := sound.follows found
  rw [acted]
  generalize recording.playback.phase = phase at moves
  cases moves with
  | beyond | last => exact .inl rfl
  | next index action rest result after goesOn =>
    cases place with
    | paused last playing count =>
      refine .inr ⟨_, rfl, ?_⟩
      rw [steps, List.length_mapIdx, count]
      rfl
  | refused | empty | first | ended => cases held

theorem Sound.acted_ended (sound : recording.Sound) {number : Nat}
    (ended : recording.playback.cursors[number]? = some .ended) (state : σ) :
    recording.acted means (.next number) state =
        (⟨.next number, some .finished, []⟩, recording.playback, state) ∧
      recording.acted means (.close number) state =
        (⟨.close number, some .finished, []⟩, recording.playback, state) := by
  have same : recording.playback.cursors.set number .ended = recording.playback.cursors := by
    obtain ⟨inside, here⟩ := List.getElem?_eq_some_iff.mp ended
    rw [← here]
    exact List.set_getElem_self inside
  constructor
  · rw [acted_next ended]
    simp only [Cursor.next, Playback.settle, same]
  · rw [sound.closes ended, same]
    rfl

theorem act_ended {number : Nat} (ended : recording.playback.cursors[number]? = some .ended)
    (operation : Operation) (state : σ) :
    (recording.act means operation state).1.playback.cursors[number]? = some .ended := by
  obtain ⟨inside, _⟩ := List.getElem?_eq_some_iff.mp ended
  -- a cursor that an operation puts in its place is again at its end
  have settled {other : Nat} {cursor : Cursor} (found : recording.playback.cursors[other]? = some cursor)
      (moved : Moved (σ × List (Made ε))) (stays : cursor = .ended → moved.cursor = .ended) :
      (recording.playback.settle other moved).2.1.cursors[number]? = some .ended := by
    simp only [Playback.settle, List.getElem?_set]
    by_cases same : other = number
    · subst same
      rw [ended] at found
      rw [if_pos rfl, if_pos inside, stays (Option.some.inj found).symm]
    · rw [if_neg same]
      exact ended
  unfold Recording.act
  split
  · next possible =>
    cases operation with
    | start =>
      have apart : number ≠ recording.playback.cursors.length := Nat.ne_of_lt inside
      exact (Playback.getElem?_start _ number).trans (by rw [if_neg apart, ended])
    | next other =>
      have found := List.getElem?_eq_getElem (possible other rfl)
      simp only [acted_next found]
      exact settled found _ fun same => by rw [same]; rfl
    | close other =>
      have found := List.getElem?_eq_getElem (possible other rfl)
      simp only [acted_close found]
      exact settled found _ fun same => by rw [same]; rfl
  · exact ended

theorem play_ended (means : Means σ ε) {number : Nat}
    (ended : recording.playback.cursors[number]? = some .ended) (operations : List Operation) (state : σ) :
    (recording.play means operations state).1.playback.cursors[number]? = some .ended := by
  induction operations generalizing recording state with
  | nil => exact ended
  | cons operation rest ih => exact ih (act_ended ended operation state) _

theorem acted_next_congr (means : Means σ ε) (recording : Recording ε) {number other : Nat}
    (apart : other ≠ number) (cursor : Cursor) (past : List (Entry ε)) (state : σ) :
    let entry := (recording.acted means (.next other) state).1
    let after := (recording.acted means (.next other) state).2.2
    ∃ playback,
      acted means { recording with
          playback := { recording.playback with cursors := recording.playback.cursors.set number cursor }
          past } (.next other) state = (entry, playback, after) := by
  have same : (recording.playback.cursors.set number cursor).getD other .ended =
      recording.playback.cursors.getD other .ended := by
    simp only [List.getD, List.getElem?_set, if_neg apart.symm]
  simp only [acted, Operation.act, Playback.next, same, Playback.settle, Prod.map]
  exact ⟨_, rfl⟩

/-- After a step the calls of its cursor are as many dispatches as it gave steps, and a pause between each
two of them. -/
theorem Sound.counted (sound : recording.Sound) {number : Nat} {step : Step} {state : σ}
    (made : number < recording.playback.cursors.length)
    (answer : (recording.acted means (.next number) state).1.answer = some (.step step)) :
    let trail := (recording.act means (.next number) state).1.own number
    step.index + 1 = trail.steps.length ∧ trail.dispatches.length = trail.steps.length ∧
      trail.pauses + 1 = trail.steps.length ∧
      trail.dispatches.map (·.1) = recording.playback.actions.take trail.steps.length := by
  have found := List.getElem?_eq_getElem made
  obtain ⟨moved, moves, acted⟩ := sound.moves means found state
  have after := sound.act means (.next number) state
  have performed : (recording.act means (.next number) state).1.playback =
      (recording.playback.settle number moved).2.1 := by
    rw [Recording.act, if_pos (by rintro _ ⟨⟩; exact made), acted]
  have there : (recording.act means (.next number) state).1.playback.cursors[number]? =
      some moved.cursor := by
    rw [performed]
    exact (List.getElem?_set_self made)
  have follows := after.follows there
  rw [performed] at follows
  rw [acted] at answer
  obtain ⟨steps, place⟩ := follows
  -- wherever the cursor was, it stands after this step now
  have stands : ∃ outcome rest, moved.cursor = .paused (step.index + 1) outcome rest := by
    generalize recording.playback.phase = phase at moves
    generalize recording.playback.cursors[number] = cursor at moves
    cases moves with
    | first => cases answer; exact ⟨_, _, rfl⟩
    | next => cases answer; exact ⟨_, _, rfl⟩
    | _ => cases answer
  obtain ⟨outcome, rest, stands⟩ := stands
  rw [stands] at place
  cases place with
  | paused last playing count _ _ _ _ pauses =>
    have length := congrArg List.length steps
    rw [List.length_mapIdx] at length
    refine ⟨by rw [length, count], length.symm, by rw [length, count, pauses], ?_⟩
    rw [length]
    exact playing.take_eq

/-! ## Safety -/

/-- The cursors of a run are safe for any use: what holds between two operations, and what the next one
can do. -/
structure Safe (means : Means σ ε) (recording : Recording ε) (state : σ) : Prop where
  running_iff : recording.playback.phase = .running ↔ ∃ number, recording.playback.Suspended number
  alone : ∀ {first second}, recording.playback.Suspended first → recording.playback.Suspended second →
    first = second
  refused_iff : ∀ {number}, recording.playback.cursors[number]? = some .fresh →
    ((∃ fault, (recording.acted means (.next number) state).1.answer = some (.refused fault)) ↔
      ∃ other, other ≠ number ∧ recording.playback.Suspended other)
  /-- A refusal makes no call. The phase stays, and so do all cursors but the one that is refused. -/
  refused : ∀ {number other}, recording.playback.cursors[number]? = some .fresh →
    recording.playback.Suspended other →
    recording.acted means (.next number) state =
      (⟨.next number, some (.refused ⟨.running, .running⟩), []⟩,
        { recording.playback with cursors := recording.playback.cursors.set number .ended }, state)
  /-- The suspended cursor answers, calls and leaves the state as if there had been no refusal. -/
  unhindered : ∀ {number other}, recording.playback.cursors[number]? = some .fresh →
    recording.playback.Suspended other →
    let after := recording.act means (.next number) state
    (after.1.acted means (.next other) after.2).1 = (recording.acted means (.next other) state).1 ∧
      (after.1.acted means (.next other) after.2).2.2 = (recording.acted means (.next other) state).2.2
  continues : ∀ {number}, recording.playback.Suspended number →
    (recording.acted means (.next number) state).1.answer = some .finished ∨
    ∃ step, (recording.acted means (.next number) state).1.answer = some (.step step) ∧
      step.index = (recording.own number).steps.length
  /-- Whatever is done later, a cursor at its end stays there, and to move or close it changes nothing. -/
  ended : ∀ {number}, recording.playback.cursors[number]? = some .ended → ∀ later,
    let after := recording.play means later state
    after.1.playback.cursors[number]? = some .ended ∧
      after.1.acted means (.next number) after.2 =
        (⟨.next number, some .finished, []⟩, after.1.playback, after.2) ∧
      after.1.acted means (.close number) after.2 =
        (⟨.close number, some .finished, []⟩, after.1.playback, after.2)
  close_suspended : ∀ {number}, recording.playback.Suspended number →
    recording.acted means (.close number) state =
      (⟨.close number, some .finished, []⟩,
        { recording.playback with
          phase := .idle, cursors := recording.playback.cursors.set number .ended }, state)
  close_fresh : ∀ {number}, recording.playback.cursors[number]? = some .fresh →
    recording.acted means (.close number) state =
      (⟨.close number, some .finished, []⟩,
        { recording.playback with cursors := recording.playback.cursors.set number .ended }, state)
  /-- The way back to the idle phase is never refused, nor is anything but the start of a cursor. -/
  of_refused : ∀ {operation fault},
    (recording.acted means operation state).1.answer = some (.refused fault) →
    ∃ number, operation = .next number ∧ recording.playback.cursors[number]? = some .fresh
  indices : ∀ {number}, number < recording.playback.cursors.length →
    (recording.own number).steps.map (·.index) = List.range (recording.own number).steps.length
  counted : ∀ {number step}, number < recording.playback.cursors.length →
    (recording.acted means (.next number) state).1.answer = some (.step step) →
    let trail := (recording.act means (.next number) state).1.own number
    step.index + 1 = trail.steps.length ∧ trail.dispatches.length = trail.steps.length ∧
      trail.pauses + 1 = trail.steps.length ∧
      trail.dispatches.map (·.1) = recording.playback.actions.take trail.steps.length

theorem Sound.safe (sound : recording.Sound) (state : σ) : recording.Safe means state where
  running_iff := sound.exclusive.running_iff
  alone := sound.exclusive.alone
  refused_iff := by
    intro number fresh
    constructor
    · rintro ⟨fault, answer⟩
      obtain ⟨_, other, ⟨⟩, _, apart, suspended⟩ := sound.of_refused answer
      exact ⟨other, apart, suspended⟩
    · rintro ⟨other, _, suspended⟩
      rw [sound.refused fresh suspended]
      exact ⟨_, rfl⟩
  refused := fun fresh suspended => sound.refused fresh suspended state
  unhindered := by
    intro number other fresh suspended
    have apart : other ≠ number := by
      rintro rfl
      obtain ⟨cursor, found, held⟩ := suspended
      rw [fresh] at found
      cases found
      cases held
    obtain ⟨inside, _⟩ := List.getElem?_eq_some_iff.mp fresh
    have after : recording.act means (.next number) state =
        ({ recording with
          playback := { recording.playback with cursors := recording.playback.cursors.set number .ended }
          past := recording.past ++ [⟨.next number, some (.refused ⟨.running, .running⟩), []⟩] }, state) := by
      rw [Recording.act, if_pos (by rintro _ ⟨⟩; exact inside), sound.refused fresh suspended]
    obtain ⟨playback, same⟩ := acted_next_congr means recording apart .ended
      (recording.past ++ [⟨.next number, some (.refused ⟨.running, .running⟩), []⟩]) state
    simp only [after, same, and_self]
  continues := fun suspended => sound.continues suspended state
  ended := by
    intro number ended later
    have still := play_ended means ended later state
    exact ⟨still, (sound.play means later state).acted_ended still _⟩
  close_suspended := by
    rintro number ⟨cursor, found, held⟩
    rw [sound.closes found, if_pos held]
  close_fresh := fun fresh => sound.closes fresh state
  of_refused := by
    intro operation fault answer
    obtain ⟨number, _, same, fresh, _⟩ := sound.of_refused answer
    exact ⟨number, same, fresh⟩
  indices := by
    intro number made
    rw [(sound.follows (List.getElem?_eq_getElem made)).steps]
    exact Dispatched.indices _
  counted := fun made answer => sound.counted made answer

/-- The cursors of a run are safe in any use. Whatever was done with them, and whatever dispatching and
sleeping do with the state: see `Safe` for what holds then. -/
theorem safe_play (means : Means σ ε) (delay : Seconds) (actions : List Action) (operations : List Operation)
    (state : σ) :
    let reached := (ofActions delay actions).play means operations state
    reached.1.Safe means reached.2 :=
  ((sound_ofActions delay actions).play means operations state).safe _

end Recording

end Pushbutton
