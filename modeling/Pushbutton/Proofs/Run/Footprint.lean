import Pushbutton.Proofs.Run.Isolation
import Pushbutton.Proofs.Stage.Spared

/-! What a run changes in the store: the texts under which its actions store something and those of the output, and
nothing else, whatever calls on the host or on the store raise faults, unless such a call empties a file. -/

set_option autoImplicit false

namespace Pushbutton

/-! ## One write -/

namespace Stage

/-- An attempt to put a text under its key that raised a fault left the items alone, or it emptied the file. -/
theorem intact_setItem {stage after : Stage} {key value : Text} {fault : Fault}
    (failed : (Stage.setItem key value).perform stage = (.error fault, after)) :
    stage.store.Intact after.store ∨ fault.Unencodable := by
  cases refused : stage.refusal stage.calls (.setItem key value) with
  | some _ =>
    rw [Stage.setItem, Effect.perform_bind_of_error (perform_call_refused refused)] at failed
    cases failed
    exact .inl (.refl stage.store)
  | none =>
    cases read : stage.store.contents with
    | error unread =>
      have fails : Stage.items.perform (stage.called (.setItem key value)) =
          (.error unread, (stage.called (.setItem key value)).noted) := by
        rw [perform_items, store_called, read]
        rfl
      rw [Stage.setItem, Effect.perform_bind_of_ok (perform_call refused), Effect.perform_bind_of_error fails] at failed
      cases failed
      exact .inl (.refl stage.store)
    | ok contents =>
      let reading := (stage.called (.setItem key value)).noted
      have failed : (replaceItems (stage.store.items.put key value)).perform reading = (.error fault, after) :=
        (perform_setItem refused read).symm.trans failed
      cases replaced : reading.store.replace (stage.store.items.put key value) with
      | ok changed =>
        rw [perform_replaceItems replaced] at failed
        cases failed
      | error unwritten =>
        rw [perform_replaceItems_of_error replaced] at failed
        cases failed
        exact (Store.abandoned_cases replaced).imp_right And.left

theorem items_setItem (stage : Stage) (key value : Text)
    (avoids : Effect.Avoids Fault.Unencodable ((Stage.setItem key value).perform stage).1) :
    (Stage.setItem key value).Ends stage (fun _ after => after.store.items = stage.store.items.put key value)
      (fun after => after.store.items = stage.store.items) := by
  have ends := ends_written stage key value
  unfold Effect.Ends at ends ⊢
  split at ends
  · exact Store.items_of_replace_put ends
  · next fault after performed =>
    exact ((intact_setItem performed).resolve_right (avoids fault (congrArg Prod.fst performed))).items

/-- The names from the start are there in their order, and all but some keys have what they had. -/
structure Extends (keys : Text → Prop) (start stage : Stage) : Prop where
  names : start.store.items.names <+: stage.store.items.names
  held : ∀ key, ¬ keys key → stage.store.items.get? key = start.store.items.get? key

variable {keys : Text → Prop} {start : Stage}

theorem extends_unframed : Unframed (Extends keys start) := by
  intro before after framed extended
  constructor
  · rw [framed.store]
    exact extended.names
  · rw [framed.store]
    exact extended.held

theorem extends_setItem {key : Text} (member : keys key) (value : Text) :
    (Stage.setItem key value).KeepsUnless Fault.Unencodable (Extends keys start) := by
  intro stage extended avoids
  have ends := items_setItem stage key value avoids
  unfold Effect.Ends at ends
  split at ends
  · next after performed =>
    rw [performed]
    constructor
    · rw [ends]
      exact extended.names.trans (Table.names_prefix_put _ _ _)
    · intro other apart
      have different : key ≠ other := by
        rintro rfl
        exact apart member
      rw [ends, Table.get?_put, if_neg different]
      exact extended.held other apart
  · next after performed =>
    rw [performed]
    exact ⟨ends ▸ extended.names, ends ▸ extended.held⟩

end Stage

/-! ## One action -/

def Action.stores? (key : Text) (action : Action) : Option Text :=
  if action.kind = .setLocalStorage ∧ action.params.key = some key ∧ key ≠ "" then
    some (action.params.value.getD "")
  else none

/-- The text that an attempt has stored under a key, which it has unless a call raised a fault. -/
def Attempt.stored? (key : Text) (attempt : Attempt) : Option Text :=
  if attempt.failed then none else attempt.action.stores? key

/-- None of the calls emptied the file of the store. -/
def Attempt.Spares (attempt : Attempt) : Prop :=
  ∀ called ∈ attempt.calls, ∀ fault ∈ called.fault, ¬ fault.Unencodable

instance (attempt : Attempt) : Decidable attempt.Spares := inferInstanceAs (Decidable (∀ _ ∈ _, _))

namespace Action

variable {action : Action} {key : Text} {stage : Stage}

open Stage Effect

theorem avoids_of_spares (spares : Attempt.Spares ⟨action, action.script.calls stage⟩) :
    Avoids Fault.Unencodable (action.dispatch.perform stage).1 := by
  intro fault failed
  obtain ⟨called, member, raises⟩ := (action.settled_dispatch rfl).fault fault failed
  exact spares called member fault raises

def Touches (action : Action) (key : Text) : Prop :=
  key = Output.textKey ∨ key = Output.imageKey ∨ action.Writes key

theorem extends_dispatch (spares : Attempt.Spares ⟨action, action.script.calls stage⟩) :
    Extends action.Touches stage (action.dispatch.perform stage).2 := by
  have keeps : action.dispatch.KeepsUnless Fault.Unencodable (Extends action.Touches stage) := by
    apply keepsUnless_dispatch extends_unframed
    · exact fun key writes value => extends_setItem (.inr (.inr writes)) value
    · intro text
      apply keepsUnless_modify_setItem
      · exact fun _ extended => ⟨extended.names, extended.held⟩
      · exact extends_setItem (.inl rfl) text
    · intro imageUrl
      apply keepsUnless_modify_setItem
      · exact fun _ extended => ⟨extended.names, extended.held⟩
      · exact extends_setItem (.inr (.inl rfl)) imageUrl
  exact keeps stage ⟨List.prefix_rfl, fun _ _ => rfl⟩ (avoids_of_spares spares)

theorem script_of_writes (writes : action.Writes key) (named : key ≠ "") :
    action.script = .ask (.setItem key (action.params.value.getD "")) fun _ => .done .completed := by
  rw [script, writes.1, Request.of, Request.script, writes.2]
  dsimp only [Option.getD]
  rw [if_neg named]
  rfl

theorem script_of_writes_empty (writes : action.Writes "") :
    action.script = .change (fun stage => { stage with
      log := stage.log ++ [{ severity := .debug, logger := dispatchLogger, message := "Action skipped",
                             extra := action.logFields }] }) (.done .skipped) := by
  rw [script, writes.1, Request.of, Request.script, writes.2]
  rfl

theorem stores?_of_writes (writes : action.Writes key) (named : key ≠ "") :
    action.stores? key = some (action.params.value.getD "") := if_pos ⟨writes.1, writes.2, named⟩

theorem stores?_eq_none (other : ¬ action.Writes key ∨ key = "") : action.stores? key = none := by
  apply if_neg
  rintro ⟨kind, given, named⟩
  exact other.elim (fun apart => apart ⟨kind, given⟩) named

/-- Storing is the one call of such an action, and the attempt fails just when that call does. -/
theorem get?_dispatch_of_writes (writes : action.Writes key) (named : key ≠ "")
    (spares : Attempt.Spares ⟨action, action.script.calls stage⟩) :
    (action.dispatch.perform stage).2.store.items.get? key =
      (Attempt.stored? key ⟨action, action.script.calls stage⟩).or (stage.store.items.get? key) := by
  have opened := script_of_writes writes named
  have avoids := avoids_of_spares spares
  rw [← effect_script, opened, Script.effect] at avoids
  have ends := items_setItem stage key (action.params.value.getD "") avoids.of_bind
  unfold Ends at ends
  split at ends
  · next after performed =>
    have calls : action.script.calls stage = [⟨.setItem key (action.params.value.getD ""), none⟩] := by
      rw [opened, Script.calls]
      simp only [Call.effect, performed]
      rfl
    have dispatched : (action.dispatch.perform stage).2 = after := by
      rw [← effect_script, opened, Script.effect, Call.effect, perform_bind_of_ok performed]
      rfl
    rw [calls, dispatched, ends, Table.get?_put, if_pos rfl, Attempt.stored?, stores?_of_writes writes named]
    rfl
  · next fault after performed =>
    have calls : action.script.calls stage = [⟨.setItem key (action.params.value.getD ""), some fault⟩] := by
      rw [opened, Script.calls]
      simp only [Call.effect, performed]
    have dispatched : (action.dispatch.perform stage).2 = after := by
      rw [← effect_script, opened, Script.effect, Call.effect, perform_bind_of_error performed]
    rw [calls, dispatched, ends, Attempt.stored?]
    rfl

theorem get?_dispatch (spares : Attempt.Spares ⟨action, action.script.calls stage⟩) (shown : key ≠ Output.textKey)
    (pictured : key ≠ Output.imageKey) :
    (action.dispatch.perform stage).2.store.items.get? key =
      (Attempt.stored? key ⟨action, action.script.calls stage⟩).or (stage.store.items.get? key) := by
  by_cases writes : action.Writes key
  · by_cases named : key = ""
    · subst named
      rw [Attempt.stored?, stores?_eq_none (.inr rfl), ite_self, ← effect_script, script_of_writes_empty writes]
      rfl
    · exact get?_dispatch_of_writes writes named spares
  · rw [Attempt.stored?, stores?_eq_none (.inl writes), ite_self, Option.none_or]
    apply (extends_dispatch spares).held
    rintro (same | same | same)
    · exact shown same
    · exact pictured same
    · exact writes same

end Action

/-! ## Runs -/

theorem Stage.observing_keeps {property : Stage → Prop} {actions : List Action} (unframed : Unframed property)
    (dispatch : ∀ action ∈ actions, action.dispatch.KeepsUnless Fault.Unencodable property) (delay : Seconds) :
    (observing.performer delay).Keeps actions fun state =>
      (∀ attempt ∈ state.2, attempt.Spares) → property state.1 where
  dispatch action member state before spares := by
    have attempted : ((observing.performer delay).dispatch action state).2.2 =
      state.2 ++ [⟨action, action.script.calls state.1⟩] := rfl
    rw [attempted, List.forall_mem_append, List.forall_mem_singleton] at spares
    exact dispatch action member state.1 (before spares.1) (Action.avoids_of_spares spares.2)
  pause state before spares := unframed (Quiet.slept delay |>.framed state.1) (before spares)
  notice notice state before spares := unframed (Quiet.noted (noticeEntry notice) |>.framed state.1) (before spares)

/-- The names from the start are there in their order, and under each key that is not for the output stands the last
text that an attempt stored there, or else what stood there at the start. -/
structure Stage.Traced (start : Stage) (state : Stage × List Attempt) : Prop where
  names : start.store.items.names <+: state.1.store.items.names
  held : ∀ key, key ≠ Output.textKey → key ≠ Output.imageKey →
    state.1.store.items.get? key =
      (state.2.filterMap (Attempt.stored? key)).getLast?.or (start.store.items.get? key)

namespace Stage

theorem traced_keeps (start : Stage) (delay : Seconds) (actions : List Action) :
    (observing.performer delay).Keeps actions fun state =>
      (∀ attempt ∈ state.2, attempt.Spares) → Traced start state := by
  refine ⟨fun action _ state before spares => ?_, fun state before spares => ?_, fun notice state before spares => ?_⟩
  · have attempted : ((observing.performer delay).dispatch action state).2.2 =
      state.2 ++ [⟨action, action.script.calls state.1⟩] := rfl
    rw [attempted, List.forall_mem_append, List.forall_mem_singleton] at spares
    obtain ⟨earlier, spares⟩ := spares
    have traced := before earlier
    refine ⟨traced.names.trans (Action.extends_dispatch spares).names, fun key shown pictured => ?_⟩
    have dispatched := Action.get?_dispatch spares shown pictured
    rw [attempted, List.filterMap_append, List.getLast?_append, Option.or_assoc, ← traced.held key shown pictured]
    refine dispatched.trans (congrArg (Option.or · _) ?_)
    rw [List.filterMap_cons, List.filterMap_nil]
    cases Attempt.stored? key ⟨action, action.script.calls state.1⟩ <;> rfl
  · exact ⟨(before spares).names, (before spares).held⟩
  · exact ⟨(before spares).names, (before spares).held⟩

/-- The attempts are made with the first actions, in order; those ahead come next, unless the run has ended. -/
def Attempted (actions ahead : List Action) (state : Stage × List Attempt) (stage : Stage) : Prop :=
  state.1 = stage ∧ ∃ left, state.2.map (·.action) ++ left = actions ∧ (ahead = left ∨ ahead = [])

theorem attempted_paired (delay : Seconds) (actions : List Action) :
    Performer.Paired (Attempted actions) (observing.performer delay) (performer delay) where
  dispatch := by
    rintro action rest state _ ⟨rfl, left, attempted, same | none⟩
    · subst same
      refine ⟨rfl, rfl, rest, ?_, Performer.left_eq rest _⟩
      rw [← attempted]
      simp [observing, Means.performer]
    · cases none
  pause := by
    rintro ahead state _ ⟨rfl, attempted⟩
    exact ⟨rfl, attempted⟩
  notice := by
    rintro notice ahead state _ ⟨rfl, attempted⟩
    exact ⟨rfl, attempted⟩

structure Confined (workflow : Workflow) (start : Stage) (state : Stage × List Attempt) : Prop where
  attempted : state.2.map (·.action) <+: workflow.actions
  /-- No name disappears, and the names that were there keep their order. -/
  names : start.store.items.names <+: state.1.store.items.names
  /-- A key that is not for the output and under which nothing was stored has what it had. -/
  untouched : ∀ key, key ≠ Output.textKey → key ≠ Output.imageKey →
    (∀ attempt ∈ state.2, attempt.stored? key = none) →
    state.1.store.items.get? key = start.store.items.get? key
  /-- Any other has the text that was stored last. -/
  stored : ∀ key, key ≠ Output.textKey → key ≠ Output.imageKey →
    ∀ before last later text, state.2 = before ++ last :: later → last.stored? key = some text →
    (∀ attempt ∈ later, attempt.stored? key = none) → state.1.store.items.get? key = some text
  /-- The saved workflow is the same unless an action that was dispatched names its key. -/
  saved : (∀ attempt ∈ state.2, ¬ attempt.action.Writes Workflow.savedKey) →
    state.1.store.saved Workflow.savedKey = start.store.saved Workflow.savedKey

theorem Traced.confined {workflow : Workflow} {start : Stage} {state : Stage × List Attempt}
    (traced : Traced start state) (attempted : state.2.map (·.action) <+: workflow.actions) :
    Confined workflow start state := by
  have untouched (key : Text) (shown : key ≠ Output.textKey) (pictured : key ≠ Output.imageKey)
      (none : ∀ attempt ∈ state.2, attempt.stored? key = none) :
      state.1.store.items.get? key = start.store.items.get? key := by
    rw [traced.held key shown pictured, List.filterMap_eq_nil_iff.mpr none]
    rfl
  refine ⟨attempted, traced.names, untouched, ?_, fun apart => ?_⟩
  · intro key shown pictured before last later text split stored none
    have rest : later.filterMap (Attempt.stored? key) = [] := List.filterMap_eq_nil_iff.mpr none
    rw [traced.held key shown pictured, split, List.filterMap_append, List.filterMap_cons_some stored, rest]
    simp
  · have same := untouched Workflow.savedKey (by decide) (by decide) fun attempt member => by
      rw [Attempt.stored?, Action.stores?_eq_none (.inl (apart attempt member)), ite_self]
    rw [Store.saved, Store.saved, same]

/-- A run changes only what its actions name. After any number of steps, and after the whole run, see `Confined` for
what the store holds. This is so whatever the store, the host and its answers are, and whatever calls raise faults, as
long as none of these empties the file. -/
theorem run_confined (stage : Stage) (delay : Seconds) (workflow : Workflow) (moves : Nat) :
    let drained := Cursor.drain (observing.performer delay) workflow.actions moves .fresh .idle (stage, [])
    let ran := (observing.performer delay).run workflow (stage, [])
    Cursor.drain (performer delay) workflow.actions moves .fresh .idle stage =
        (drained.1, drained.2.map Prod.fst) ∧
      ((∀ attempt ∈ drained.2.state.2, attempt.Spares) → Confined workflow stage drained.2.state) ∧
      (Stage.run delay workflow).perform stage = (.ok ran.1, ran.2.2.1) ∧
      ((∀ attempt ∈ ran.2.2.2, attempt.Spares) → Confined workflow stage ran.2.2) := by
  intro drained ran
  have keeps := traced_keeps stage delay workflow.actions
  have start (_ : ∀ attempt ∈ ([] : List Attempt), attempt.Spares) : Traced stage (stage, []) :=
    ⟨List.prefix_rfl, fun _ _ _ => rfl⟩
  have paired := attempted_paired delay workflow.actions
  have fresh : Attempted workflow.actions workflow.actions (stage, []) stage := ⟨rfl, _, rfl, .inl rfl⟩
  refine ⟨((observing_over delay).drain workflow.actions moves .fresh .idle (stage, [])).symm, fun spares => ?_,
    perform_run delay workflow stage, fun spares => ?_⟩
  · obtain ⟨_, left, attempted, _⟩ :=
      (paired.drain workflow.actions moves .fresh .idle fresh fun _ busy => absurd rfl busy).2.state
    exact (keeps.drain moves .fresh .idle start (List.Subset.refl _) spares).confined ⟨left, attempted⟩
  · obtain ⟨left, attempted, _⟩ := (paired.run workflow fresh).2.2.2
    exact (keeps.run start spares).confined ⟨left, attempted⟩

/-- Two texts are to be put under one key. -/
def twiceStored : Workflow where
  actions :=
    [{ id := "a", kind := .setLocalStorage, params := { key := some "k", value := some "1" } },
     { id := "b", kind := .setLocalStorage, params := { key := some "k", value := some "2" } }]

def onceRefused : Stage where
  store := .memory [("x", "0")]
  refusal number _ := if number = 1 then some (.external "OSError" "refused") else none

/-- The text of the first action stays when the second fails. -/
theorem run_confined_refused :
    let drained := Cursor.drain (observing.performer (.whole 0)) twiceStored.actions 1 .fresh .idle (onceRefused, [])
    let ran := (observing.performer (.whole 0)).run twiceStored (onceRefused, [])
    (∀ attempt ∈ drained.2.state.2, attempt.Spares) ∧ Confined twiceStored onceRefused drained.2.state ∧
      (∀ attempt ∈ ran.2.2.2, attempt.Spares) ∧ Confined twiceStored onceRefused ran.2.2 ∧
      ran.2.2.1.store.items = [(("x" : Text), ("0" : Text)), ("k", "1")] := by
  intro drained ran
  obtain ⟨_, first, _, whole⟩ := run_confined onceRefused (.whole 0) twiceStored 1
  have sparesFirst : ∀ attempt ∈ drained.2.state.2, attempt.Spares := by decide +kernel
  have spares : ∀ attempt ∈ ran.2.2.2, attempt.Spares := by decide +kernel
  exact ⟨sparesFirst, first sparesFirst, spares, whole spares, rfl⟩

end Stage

end Pushbutton
