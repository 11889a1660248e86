import Pushbutton.Proofs.Run.Beside
import Pushbutton.Proofs.Run.Trail

/-! Revisions of the saved workflow beside a run. Both use one store, and each comes to what it would come to
without the other, however they take turns. -/

set_option autoImplicit false

namespace Pushbutton

/-! ## Turns -/

inductive Occasion where
  | operate (operation : Operation)
  | revise (revision : Revision)
  deriving DecidableEq, Repr

def Occasion.onRun : Occasion → Bool
  | .operate _ => true
  | .revise _ => false

structure Progress where
  playback : Playback
  stage : Stage
  answers : List (Option Answer) := []
  revised : List (Except Fault Workflow) := []

namespace Progress

def pass (delay : Seconds) (progress : Progress) : Occasion → Progress
  | .operate operation =>
    let acted := operation.act (Stage.performer delay) progress.playback progress.stage
    { progress with playback := acted.2.1, stage := acted.2.2, answers := progress.answers ++ [acted.1] }
  | .revise revision =>
    let edited := (Stage.revise revision).perform progress.stage
    { progress with stage := edited.2, revised := progress.revised ++ [edited.1] }

def play (delay : Seconds) (occasions : List Occasion) (progress : Progress) : Progress :=
  occasions.foldl (pass delay) progress

end Progress

/-! ## Cursors of one run -/

section

variable {σ τ ε : Type}

def Playback.Within (playback : Playback) : Prop :=
  ∀ cursor ∈ playback.cursors, cursor.left playback.actions ⊆ playback.actions

namespace Playback.Within

variable {playback : Playback}

theorem getD (within : playback.Within) (number : Nat) :
    (playback.cursors.getD number .ended).left playback.actions ⊆ playback.actions := by
  rw [List.getD_eq_getElem?_getD]
  cases found : playback.cursors[number]? with
  | none => exact List.nil_subset _
  | some cursor => exact within cursor (List.mem_of_getElem? found)

theorem settle (within : playback.Within) (number : Nat) {moved : Moved σ}
    (inside : moved.cursor.left playback.actions ⊆ playback.actions) :
    (playback.settle number moved).2.1.Within := by
  intro cursor member
  rcases List.mem_or_eq_of_mem_set member with before | rfl
  · exact within cursor before
  · exact inside

end Playback.Within

structure Operation.Paired (related : σ → τ → Prop) (one : Option Answer × Playback × σ)
    (other : Option Answer × Playback × τ) : Prop where
  answer : one.1 = other.1
  playback : one.2.1 = other.2.1
  state : related one.2.2 other.2.2

theorem Moved.Paired.settle {related : σ → τ → Prop} {actions : List Action} {one : Moved σ} {other : Moved τ}
    (paired : one.Paired (Performer.Within actions related) actions other) (playback : Playback) (number : Nat) :
    Operation.Paired related ((playback.settle number one).map some id)
      ((playback.settle number other).map some id) := by
  obtain ⟨answer, cursor, phase, _, held⟩ := paired
  refine ⟨congrArg some answer, ?_, held⟩
  simp only [Playback.settle, Prod.map, id, cursor, phase]

theorem Performer.PairedUnless.act {lost : ε → Prop} {related : σ → τ → Prop} {one : Performer σ ε}
    {other : Performer τ ε} {playback : Playback}
    (paired : PairedUnless lost (Within playback.actions related) one other)
    (within : playback.Within) (operation : Operation) {first : σ} {second : τ} (held : related first second)
    (spares : ∀ answer ∈ (operation.act one playback first).1, answer.Spares lost)
    (sparesToo : ∀ answer ∈ (operation.act other playback second).1, answer.Spares lost) :
    Operation.Paired related (operation.act one playback first) (operation.act other playback second) ∧
      (operation.act one playback first).2.1.Within := by
  cases operation with
  | start =>
    refine ⟨⟨rfl, rfl, held⟩, ?_⟩
    intro cursor member
    rcases List.mem_append.mp member with before | new
    · exact within cursor before
    · rw [List.mem_singleton.mp new]
      exact List.Subset.refl _
  | next number =>
    have moved := paired.next playback.actions (playback.cursors.getD number .ended) playback.phase
      ⟨within.getD number, held⟩ (fun _ _ => ⟨List.nil_subset _, held⟩) (spares _ rfl) (sparesToo _ rfl)
    exact ⟨moved.settle playback number, within.settle number moved.state.1⟩
  | close number =>
    have moved : Moved.Paired (Within playback.actions related) playback.actions _ _ :=
      Paired.close (playback.cursors.getD number .ended) playback.phase ⟨List.nil_subset _, held⟩
    exact ⟨moved.settle playback number, within.settle number moved.state.1⟩

theorem Operation.actions_act (performer : Performer σ ε) (operation : Operation) (playback : Playback)
    (state : σ) : (operation.act performer playback state).2.1.actions = playback.actions := by
  cases operation <;> rfl

end

/-! ## A run and revisions -/

def Answer.Fails : Answer → Prop
  | .step made => made.outcome = .failed
  | .finished | .refused _ => False

instance : DecidablePred Answer.Fails
  | .step made => inferInstanceAs (Decidable (made.outcome = .failed))
  | .finished | .refused _ => .isFalse id

/-- No step of the run failed, and no revision emptied the file of the store. -/
def Progress.Calm (progress : Progress) : Prop :=
  (∀ answer ∈ progress.answers, ∀ given ∈ answer, ¬ given.Fails) ∧
    ∀ result ∈ progress.revised, Effect.Avoids Fault.Unencodable result

instance (progress : Progress) : Decidable progress.Calm := inferInstanceAs (Decidable (_ ∧ _))

/-- What a run and the revisions beside it have come to, the run alone, and the revisions alone. -/
structure Progress.Along (both run edits : Progress) : Prop where
  apart : ∀ action ∈ both.playback.actions, ¬ action.Writes Workflow.savedKey ∧ ¬ action.Reads Workflow.savedKey
  within : both.playback.Within
  playback : both.playback = run.playback
  answers : both.answers = run.answers
  beside : Stage.Beside both.stage run.stage
  revised : both.revised = edits.revised
  aligned : Stage.Aligned both.stage edits.stage

namespace Stage

variable {actions : List Action}

theorem paired_beside (apart : ∀ action ∈ actions, ¬ action.Reads Workflow.savedKey) (delay : Seconds) :
    Performer.PairedUnless Fault.Unencodable (Performer.Within actions Beside) (performer delay) (performer delay) :=
  .within (fun action member => beside_dispatch (apart action member)) (Beside.quiet (.slept delay))
    fun notice => Beside.quiet (.noted (noticeEntry notice))

theorem paired_aligned (apart : ∀ action ∈ actions, ¬ action.Writes Workflow.savedKey) (second : Stage)
    (delay : Seconds) :
    Performer.PairedUnless Fault.Unencodable (Performer.Within actions (Only fun first => Aligned first second))
      (performer delay) (performer delay) := by
  apply Performer.PairedUnless.within
  · rintro action member first _ ⟨rfl, aligned⟩ avoids _
    exact ⟨rfl, rfl, keeps_aligned_dispatch second (apart action member) first aligned avoids⟩
  · rintro first _ ⟨rfl, aligned⟩
    exact ⟨rfl, aligned.of_unmoved ⟨rfl, rfl, rfl⟩ ⟨rfl, rfl, rfl⟩⟩
  · rintro notice first _ ⟨rfl, aligned⟩
    exact ⟨rfl, aligned.of_unmoved ⟨rfl, rfl, rfl⟩ ⟨rfl, rfl, rfl⟩⟩

end Stage

namespace Progress

theorem answers_play (delay : Seconds) (occasions : List Occasion) (progress : Progress) :
    progress.answers <+: (progress.play delay occasions).answers ∧
      progress.revised <+: (progress.play delay occasions).revised := by
  induction occasions generalizing progress with
  | nil => exact ⟨List.prefix_rfl, List.prefix_rfl⟩
  | cons occasion rest ih =>
    obtain ⟨answers, revised⟩ := ih (progress.pass delay occasion)
    cases occasion with
    | operate operation => exact ⟨(List.prefix_append _ _).trans answers, revised⟩
    | revise revision => exact ⟨answers, (List.prefix_append _ _).trans revised⟩

theorem Calm.of_play {delay : Seconds} {occasions : List Occasion} {progress : Progress}
    (calm : (progress.play delay occasions).Calm) : progress.Calm := by
  obtain ⟨answers, revised⟩ := progress.answers_play delay occasions
  exact ⟨fun answer member => calm.1 answer (answers.subset member),
    fun result member => calm.2 result (revised.subset member)⟩

theorem Calm.spares {delay : Seconds} {operation : Operation} {progress : Progress}
    (calm : (progress.pass delay (.operate operation)).Calm) :
    ∀ answer ∈ (operation.act (Stage.performer delay) progress.playback progress.stage).1,
      answer.Spares Fault.Unencodable := by
  rintro answer given step rfl failed
  exact absurd failed (calm.1 _ (List.mem_append_right _ (List.mem_singleton_self _)) _ given)

theorem Calm.avoids {delay : Seconds} {revision : Revision} {progress : Progress}
    (calm : (progress.pass delay (.revise revision)).Calm) :
    Effect.Avoids Fault.Unencodable ((Stage.revise revision).perform progress.stage).1 :=
  calm.2 _ (List.mem_append_right _ (List.mem_singleton_self _))

namespace Along

variable {both run edits : Progress} {delay : Seconds}

theorem operate (along : Along both run edits) {operation : Operation}
    (calm : (both.pass delay (.operate operation)).Calm) (calmRun : (run.pass delay (.operate operation)).Calm) :
    Along (both.pass delay (.operate operation)) (run.pass delay (.operate operation)) edits := by
  obtain ⟨apart, within, playback, answers, beside, revised, aligned⟩ := along
  have paired := Stage.paired_beside (fun action member => (apart action member).2) delay
  have keeps := Stage.paired_aligned (fun action member => (apart action member).1) edits.stage delay
  have spares := calmRun.spares
  rw [← playback] at spares
  obtain ⟨acted, inside⟩ := paired.act within operation beside calm.spares spares
  obtain ⟨kept, _⟩ := keeps.act within operation ⟨rfl, aligned⟩ calm.spares calm.spares
  have actions := operation.actions_act (Stage.performer delay) both.playback both.stage
  simp only [pass]
  rw [← playback, ← answers]
  refine ⟨?_, inside, acted.playback, ?_, acted.state, revised, kept.state.2⟩
  · rw [actions]
    exact apart
  · rw [acted.answer]

theorem revise (along : Along both run edits) {revision : Revision}
    (calm : (both.pass delay (.revise revision)).Calm) (calmEdits : (edits.pass delay (.revise revision)).Calm) :
    Along (both.pass delay (.revise revision)) run (edits.pass delay (.revise revision)) := by
  obtain ⟨apart, within, playback, answers, beside, revised, aligned⟩ := along
  obtain ⟨same, after⟩ := Stage.aligned_revise revision both.stage edits.stage aligned calm.avoids calmEdits.avoids
  have besides := Stage.keeps_beside_revise run.stage revision both.stage beside calm.avoids
  refine ⟨apart, within, playback, answers, besides, ?_, after⟩
  simp only [pass]
  rw [revised, same]

theorem play (along : Along both run edits) {occasions : List Occasion} (calm : (both.play delay occasions).Calm)
    (calmRun : (run.play delay (occasions.filter (·.onRun))).Calm)
    (calmEdits : (edits.play delay (occasions.filter (!·.onRun))).Calm) :
    Along (both.play delay occasions) (run.play delay (occasions.filter (·.onRun)))
      (edits.play delay (occasions.filter (!·.onRun))) := by
  -- on the occasions, each of which goes to the run or to the revisions
  induction occasions generalizing both run edits with
  | nil => exact along
  | cons occasion rest ih =>
    cases occasion with
    | operate operation => exact ih (along.operate (Calm.of_play calm) (Calm.of_play calmRun)) calm calmRun calmEdits
    | revise revision => exact ih (along.revise (Calm.of_play calm) (Calm.of_play calmEdits)) calm calmRun calmEdits

end Along

/-- Revisions beside a run lose nothing, and nothing of the run is lost. However the two take turns, the cursors
answer and the stage is left as by the run alone, apart from the saved workflow; and the revisions come to what they
come to alone, with the same workflow saved in the end. This is so while no call raises a fault, neither here nor in
the run or the revisions alone, and no action of the run stores or reads a text under the key of the workflow. -/
theorem play_alongside {stage : Stage} (ready : stage.Ready) {actions : List Action}
    (apart : ∀ action ∈ actions, ¬ action.Writes Workflow.savedKey ∧ ¬ action.Reads Workflow.savedKey)
    (delay : Seconds) (occasions : List Occasion) :
    let start : Progress := { playback := { actions }, stage }
    let both := start.play delay occasions
    let run := start.play delay (occasions.filter (·.onRun))
    let edits := start.play delay (occasions.filter (!·.onRun))
    both.Calm → run.Calm → edits.Calm →
    (both.answers = run.answers ∧ both.playback = run.playback ∧ Stage.Beside both.stage run.stage) ∧
    both.revised = edits.revised ∧ both.stage.ids = edits.stage.ids ∧
    both.stage.store.items.get? Workflow.savedKey = edits.stage.store.items.get? Workflow.savedKey ∧
    ((Stage.load Workflow.savedKey).perform both.stage).1 =
      ((Stage.load Workflow.savedKey).perform edits.stage).1 := by
  intro start both run edits calm calmRun calmEdits
  have begun : Along start start start :=
    ⟨apart, fun _ member => absurd member List.not_mem_nil, rfl, rfl, ready.beside, rfl, ready.aligned⟩
  have along := begun.play calm calmRun calmEdits
  exact ⟨⟨along.answers, along.playback, along.beside⟩, along.revised, along.aligned.steady.ids, along.aligned.held,
    Stage.aligned_load along.aligned⟩

end Progress

def asking : List Action :=
  [{ id := "a", kind := .promptAndShow },
    { id := "b", kind := .setLocalStorage, params := { key := some "a", value := some "1" } },
    { id := "c", kind := .getLocalStorage, params := { key := some Output.textKey } }]

/-- Actions are appended and moved while a cursor stands between its own. -/
def relabelling : List Occasion :=
  [.operate .start, .revise (.append .alert), .operate (.next 0), .revise (.reorder 0 none), .operate (.next 0),
    .revise (.relabel "Start"), .operate (.next 0), .operate (.close 0)]

theorem Progress.play_alongside_relabelling :
    let stage : Stage :=
      { store := .memory [("k", "v")], host := .page [some "b"] false }
    let start : Progress := { playback := { actions := asking }, stage }
    let both := start.play (.whole 0) relabelling
    let run := start.play (.whole 0) (relabelling.filter (·.onRun))
    let edits := start.play (.whole 0) (relabelling.filter (!·.onRun))
    stage.Ready ∧
    (∀ action ∈ asking, ¬ action.Writes Workflow.savedKey ∧ ¬ action.Reads Workflow.savedKey) ∧
    both.Calm ∧ run.Calm ∧ edits.Calm ∧
    both.answers = run.answers ∧ Stage.Beside both.stage run.stage ∧ both.revised = edits.revised ∧
    ((Stage.load Workflow.savedKey).perform both.stage).1 =
      ((Stage.load Workflow.savedKey).perform edits.stage).1 := by
  intro stage start both run edits
  have ready : stage.Ready := ⟨List.nodup_singleton _, fun _ _ => rfl⟩
  have apart : ∀ action ∈ asking,
      ¬ action.Writes Workflow.savedKey ∧ ¬ action.Reads Workflow.savedKey := by
    simp [asking, Action.Writes, Action.Reads, Output.textKey, Workflow.savedKey]
  have calm : both.Calm := by decide +kernel
  have calmRun : run.Calm := by decide +kernel
  have calmEdits : edits.Calm := by decide +kernel
  obtain ⟨⟨answers, _, beside⟩, revised, _, _, loads⟩ :=
    Progress.play_alongside ready apart (.whole 0) relabelling calm calmRun calmEdits
  exact ⟨ready, apart, calm, calmRun, calmEdits, answers, beside, revised, loads⟩

end Pushbutton
