import Pushbutton.Proofs.Run.Course

/-! What is stored in a run is read later in it. Between the two stand any actions, of which some may raise faults: the
one that reads shows the text that was stored last under its key. -/

set_option autoImplicit false

namespace Pushbutton

/-! ## Stored and read -/

/-- The text that an action has stored under a key, if it was completed. -/
def Action.storedAs? (key : Text) (became : Action × Outcome) : Option Text :=
  if became.2 = .completed then became.1.stores? key else none

namespace Stage

/-- What is shown for a key, with the text under it or a word for its absence. -/
def Recites (key : Text) (value : Option Text) (stage : Stage) : Prop :=
  let text := key ++ ": " ++ value.getD Request.absentValue
  stage.output.text = text ∧ (stage.backed = true → stage.store.items.get? Output.textKey = some text)

/-- Under the key stands what was stored there last, and it was shown if it was just read. -/
structure Recalls (key : Text) (start : Stage) (past : List (Action × Outcome)) (stage : Stage) : Prop where
  held : stage.store.items.get? key =
    (past.filterMap (Action.storedAs? key)).getLast?.or (start.store.items.get? key)
  backed : stage.backed = start.backed
  shown : ∀ last ∈ past.getLast?, last.1.Reads key → last.2 = .completed →
    key ≠ "" ∧ stage.Recites key (stage.store.items.get? key)

variable {key : Text} {action : Action} {stage after : Stage}

theorem stored?_attempt (action : Action) (stage : Stage) :
    Attempt.stored? key ⟨action, action.script.calls stage⟩ =
      Action.storedAs? key (action, Dispatched.outcome (action, (action.dispatch.perform stage).1)) := by
  rw [action.outcome_dispatch rfl, Attempt.stored?, Action.storedAs?, Attempt.outcome]
  cases Attempt.failed ⟨action, action.script.calls stage⟩ with
  | true => rfl
  | false =>
    simp only [Bool.false_eq_true, if_false]
    by_cases stores : action.kind = .setLocalStorage ∧ action.params.key = some key ∧ key ≠ ""
    · have completed : action.outcome stage.control.isSome = .completed := by
        simp [Action.outcome, stores]
      rw [if_pos completed]
    · rw [Action.stores?, if_neg stores, ite_self]

theorem shares_backed (backed : Bool) : Shares (Only fun stage => stage.backed = backed) :=
  shares_only fun _ _ _ _ same => same

theorem backed_dispatch (action : Action) (stage : Stage) :
    (action.dispatch.perform stage).2.backed = stage.backed := by
  have written (key value : Text) : (setItem key value).Keeps fun after => after.backed = stage.backed :=
    Effect.twin_only_iff.mp ((shares_backed stage.backed).setItem key value)
  have keeps : action.dispatch.Keeps fun after => after.backed = stage.backed := by
    apply Action.keeps_dispatch_of_unframed
    · exact fun framed same => framed.backed.trans same
    · exact fun key _ value => written key value
    · exact fun text => Effect.keeps_modify_setItem (fun _ same => same) (written _ text)
    · exact fun imageUrl => Effect.keeps_modify_setItem (fun _ same => same) (written _ imageUrl)
  exact keeps stage rfl

theorem recites_of_reads (reads : action.Reads key) (shown : key ≠ Output.textKey)
    (dispatched : action.dispatch.perform stage = (.ok .completed, after)) :
    key ≠ "" ∧ after.Recites key (after.store.items.get? key) := by
  have outcome := ((action.settled_dispatch rfl).value _ (congrArg Prod.fst dispatched)).1
  have used := Action.used_of_dispatch dispatched
  have request : action.request = .getLocalStorage (some key) := by
    rw [Action.request, reads.1, Request.of, reads.2]
  have named : key ≠ "" := by
    rintro rfl
    simp [Action.outcome, reads.1, reads.2] at outcome
  have text : action.request.text? stage.store.items stage.answer =
      some (key ++ ": " ++ (stage.store.items.get? key).getD Request.absentValue) := by
    rw [request]
    exact if_neg named
  have items : after.store.items = _ := used.items.trans (Request.items_eq_kept text _)
  obtain ⟨⟨store, log, events, calls, rfl⟩, -, -, -⟩ := used
  dsimp only at items
  have still : store.items.get? key = stage.store.items.get? key := by
    rw [items, Table.kept]
    split
    · rw [Table.get?_put, if_neg (Ne.symm shown)]
    · rfl
  refine ⟨named, ?_, fun backed => ?_⟩
  · dsimp only [changed]
    rw [text, still]
    rfl
  · dsimp only [changed] at backed ⊢
    rw [still, items, Table.kept, if_pos backed, Table.get?_put, if_pos rfl]

theorem recalls_unfolds (shown : key ≠ Output.textKey) (pictured : key ≠ Output.imageKey) (start : Stage)
    (delay : Seconds) :
    (observing.performer delay).Unfolds fun past state =>
      (∀ attempt ∈ state.2, attempt.Spares) → Recalls key start past state.1 where
  dispatch := by
    intro past action state before dispatched spares
    obtain ⟨stage, attempts⟩ := state
    have attempted : dispatched.2.2 = attempts ++ [⟨action, action.script.calls stage⟩] := rfl
    rw [attempted, List.forall_mem_append, List.forall_mem_singleton] at spares
    have recalls := before spares.1
    refine ⟨?_, (backed_dispatch action stage).trans recalls.backed, ?_⟩
    · have found := Action.get?_dispatch spares.2 shown pictured
      rw [recalls.held, stored?_attempt, ← Option.or_assoc, ← getLast?_filterMap_concat] at found
      exact found
    · intro last final reads completed
      rw [List.getLast?_concat, Option.mem_def, Option.some.injEq] at final
      subst final
      dsimp only at reads completed
      have result := Dispatched.result_eq_ok (by rw [completed]; nofun)
      rw [completed] at result
      exact recites_of_reads reads shown (Prod.ext result rfl)
  pause before spares := ⟨(before spares).held, (before spares).backed, (before spares).shown⟩
  notice _ _ _ before spares := ⟨(before spares).held, (before spares).backed, (before spares).shown⟩

def attempts (delay : Seconds) (workflow : Workflow) (count : Nat) (stage : Stage) : List Attempt :=
  ((observing.performer delay).midway workflow count (stage, [])).2

theorem midway_observing (delay : Seconds) (workflow : Workflow) (count : Nat) (stage : Stage) :
    ((observing.performer delay).midway workflow count (stage, [])).1 =
      (performer delay).midway workflow count stage := by
  have begun := (observing_over delay).notice (.started workflow.actions.length) (stage, [])
  have drained := (observing_over delay).drain workflow.actions count .fresh .idle
    ((observing.performer delay).notice (.started workflow.actions.length) (stage, []))
  rw [begun] at drained
  exact (congrArg (·.2.state) drained)

end Stage

/-! ## Runs -/

def Report.Completes (report : Report) (workflow : Workflow) (place : Nat) (action : Action) : Prop :=
  workflow.actions[place]? = some action ∧ ∃ step, report.steps[place]? = some step ∧ step.outcome = .completed

namespace Stage

variable {delay : Seconds} {workflow : Workflow} {stage last : Stage} {report : Report} {key : Text}
  {getting : Action} {there : Nat}

theorem recalls_midway (shown : key ≠ Output.textKey) (pictured : key ≠ Output.imageKey)
    (ran : (Stage.run delay workflow).perform stage = (.ok report, last)) {count : Nat}
    (spares : ∀ attempt ∈ attempts delay workflow count stage, attempt.Spares) :
    Recalls key stage ((Action.withOutcomes workflow.actions report.steps).take count)
      ((performer delay).midway workflow count stage) := by
  have start (_ : ∀ attempt ∈ ([] : List Attempt), attempt.Spares) : Recalls key stage [] stage :=
    ⟨rfl, rfl, fun _ last => nomatch last⟩
  have recalls := (recalls_unfolds shown pictured stage delay).midway workflow count start spares
  have observed : ((observing.performer delay).run workflow (stage, [])).1 = report :=
    Except.ok.inj (congrArg Prod.fst ((perform_run delay workflow stage).symm.trans ran))
  rw [observed, midway_observing] at recalls
  exact recalls

theorem recites_midway (shown : key ≠ Output.textKey) (pictured : key ≠ Output.imageKey)
    (ran : (Stage.run delay workflow).perform stage = (.ok report, last))
    (spares : ∀ attempt ∈ attempts delay workflow (there + 1) stage, attempt.Spares)
    (read : report.Completes workflow there getting) (reads : getting.Reads key) :
    let value := (((Action.withOutcomes workflow.actions report.steps).take there).filterMap
      (Action.storedAs? key)).getLast?.or (stage.store.items.get? key)
    let after := (performer delay).midway workflow (there + 1) stage
    key ≠ "" ∧ after.Recites key value ∧ after.backed = stage.backed := by
  obtain ⟨held, backed, recites⟩ := recalls_midway shown pictured ran spares
  have final := Action.getElem?_withOutcomes.mpr read
  have silent : Action.storedAs? key (getting, .completed) = none := by
    rw [Action.storedAs?, if_pos rfl, Action.stores?, reads.1]
    rfl
  rw [List.take_add_one, final, Option.toList_some] at held recites
  rw [getLast?_filterMap_concat, silent, Option.none_or] at held
  rw [← held]
  obtain ⟨named, recites⟩ := recites _ List.getLast?_concat reads rfl
  exact ⟨named, recites, backed⟩

theorem storedAs?_of_not_writes {became : Action × Outcome}
    (apart : became.2 = .completed → ¬ became.1.Writes key) : Action.storedAs? key became = none := by
  rw [Action.storedAs?]
  split
  · next completed => exact Action.stores?_eq_none (.inl (apart completed))
  · rfl

end Stage

/-- What is stored in a run is read later in it, whatever stands between and whatever calls raise faults, if none of
these has emptied the file of the store. Right after a read of a key that is not for the output, the text is the one
that an action has stored there last; and if none has, and nothing stood there before the run, it says so. -/
theorem Stage.run_recalls {delay : Seconds} {workflow : Workflow} {stage last : Stage} {report : Report}
    (ran : (Stage.run delay workflow).perform stage = (.ok report, last)) {key : Text}
    (shown : key ≠ Output.textKey) (pictured : key ≠ Output.imageKey) {there : Nat} {getting : Action}
    (read : report.Completes workflow there getting) (reads : getting.Reads key)
    (spares : ∀ attempt ∈ attempts delay workflow (there + 1) stage, attempt.Spares) :
    let after := (performer delay).midway workflow (there + 1) stage
    let Tells (text : Text) : Prop :=
      after.output.text = text ∧ (stage.backed = true → after.store.items.get? Output.textKey = some text)
    (∀ here setting, here < there → report.Completes workflow here setting → setting.Writes key →
      (∀ between other, here < between → between < there → report.Completes workflow between other →
        ¬ other.Writes key) →
      Tells (key ++ ": " ++ setting.params.value.getD "")) ∧
    (stage.store.items.get? key = none →
      (∀ before other, before < there → report.Completes workflow before other → ¬ other.Writes key) →
      Tells (key ++ ": null")) := by
  intro after Tells
  obtain ⟨named, recites, backed⟩ := recites_midway shown pictured ran spares read reads
  rw [Recites, backed] at recites
  have silent {between : Nat} {became : Action × Outcome}
      (found : (Action.withOutcomes workflow.actions report.steps)[between]? = some became)
      (apart : ∀ other, report.Completes workflow between other → ¬ other.Writes key) :
      Action.storedAs? key became = none := by
    refine storedAs?_of_not_writes fun completed => apart became.1 ?_
    exact Action.getElem?_withOutcomes.mp (found.trans (by rw [← completed]))
  refine ⟨fun here setting inside stored writes apart => ?_, fun absent apart => ?_⟩
  · have stores : Action.storedAs? key (setting, .completed) = some (setting.params.value.getD "") := by
      rw [Action.storedAs?, if_pos rfl, Action.stores?_of_writes writes named]
    rw [getLast?_filterMap_take inside (Action.getElem?_withOutcomes.mpr stored) stores
      fun between after before other found => silent found (apart between · after before)] at recites
    exact recites
  · rw [filterMap_take_eq_nil fun before inside other found => silent found (apart before · inside), absent] at recites
    have word : key ++ ": " ++ Request.absentValue = key ++ ": null" := Text.append_assoc ..
    rw [← word]
    exact recites

/-- A text is stored, a call on the host and another on the store raise faults, and the output is written before two
reads. -/
def recalling : Workflow where
  actions := [{ id := "a", kind := .setLocalStorage, params := { key := some "k", value := some "v" } },
    { id := "b", kind := .alert },
    { id := "c", kind := .setLocalStorage, params := { key := some "k", value := some "w" } },
    { id := "d", kind := .showText, params := { message := some "x" } },
    { id := "e", kind := .getLocalStorage, params := { key := some "k" } },
    { id := "f", kind := .getLocalStorage, params := { key := some "m" } }]

def faltering : Stage where
  store := .memory []
  refusal _ call :=
    if call = .notify "Alert!" ∨ call = .setItem "k" "w" then some (.external "OSError" "") else none

def recalled : Report where
  steps := [⟨0, "a", .setLocalStorage, .completed⟩, ⟨1, "b", .alert, .failed⟩, ⟨2, "c", .setLocalStorage, .failed⟩,
    ⟨3, "d", .showText, .completed⟩, ⟨4, "e", .getLocalStorage, .completed⟩, ⟨5, "f", .getLocalStorage, .completed⟩]

theorem Report.only_of_recalled {place : Nat} {action : Action} {key : Text}
    (completed : recalled.Completes recalling place action) (writes : action.Writes key) : place = 0 ∧ key = "k" := by
  obtain ⟨found, step, stepped, outcome⟩ := completed
  obtain ⟨kind, given⟩ := writes
  have inside : place < 6 := (List.getElem?_eq_some_iff.mp found).1
  interval_cases place <;> cases found <;> cases stepped
  · exact ⟨rfl, (Option.some.inj given).symm⟩
  · cases outcome
  · cases outcome
  · cases kind
  · cases kind
  · cases kind

theorem Stage.run_recalls_recalling :
    let ran := (Stage.run (.whole 0) recalling).perform faltering
    let after count := (performer (.whole 0)).midway recalling count faltering
    ran = (.ok recalled, ran.2) ∧
    (after 5).output.text = "k: v" ∧ (after 5).store.items.get? Output.textKey = some ("k: v" : Text) ∧
    (after 6).output.text = "m: null" ∧ (after 6).store.items.get? Output.textKey = some ("m: null" : Text) := by
  intro _ after
  have ran : (Stage.run (.whole 0) recalling).perform faltering = (.ok recalled, _) := Prod.ext (by decide +kernel) rfl
  have first : recalled.Completes recalling 4 _ := ⟨rfl, _, rfl, rfl⟩
  have second : recalled.Completes recalling 5 _ := ⟨rfl, _, rfl, rfl⟩
  have stored : recalled.Completes recalling 0 _ := ⟨rfl, _, rfl, rfl⟩
  have recalled := run_recalls ran (by decide) (by decide) first ⟨rfl, rfl⟩ (by decide +kernel)
  obtain ⟨text, kept⟩ := recalled.1 0 _ (by decide) stored
    ⟨rfl, rfl⟩ fun between other after _ completed writes => after.ne' (Report.only_of_recalled completed writes).1
  obtain ⟨absent, noted⟩ := (run_recalls ran (by decide) (by decide) second ⟨rfl, rfl⟩ (by decide +kernel)).2 rfl
    fun before other _ completed writes => absurd (Report.only_of_recalled completed writes).2 (by decide)
  exact ⟨ran, text, kept rfl, absent, noted rfl⟩

end Pushbutton
