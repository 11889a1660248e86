import Pushbutton.Proofs.Run.Footprint
import Pushbutton.Proofs.Workflow.Alter
import Pushbutton.Proofs.Workflow.History

/-! Parameters that are left over: whatever happens to a workflow, an action keeps its parameters until they are
replaced, whether or not the kinds that it has meanwhile read any of them. -/

set_option autoImplicit false

namespace Pushbutton

/-! ## Saving and loading -/

namespace Stage

def saveThenLoad (key : Text) (workflow : Workflow) : Effect (Option Workflow) := do
  save key workflow
  load key

variable {workflow : Workflow} {key : Text}

theorem ends_load_of_recordText {stage : Stage} (wellFormed : workflow.WellFormed)
    (held : stage.store.items.get? key = some workflow.recordText) :
    (Stage.load key).Ends stage (fun found _ => found = some workflow) fun _ => True := by
  unfold Effect.Ends
  cases refused : stage.refusal stage.calls (.getItem key) with
  | some fault =>
    have failed : (getItem key).perform stage = (.error fault, stage.counted) := by
      rw [getItem, Effect.perform_bind_of_error (perform_permit_refused refused)]
    rw [load, Effect.perform_bind_of_error failed]
    trivial
  | none =>
    obtain ⟨after, loads, -⟩ := perform_load refused
    rw [loads, Store.saved_of_recordText held wellFormed]
    cases stage.store.contents <;> trivial

/-- Through any store, whatever calls it refuses: a workflow that is loaded is the one that was saved. -/
theorem ends_saveThenLoad (stage : Stage) (key : Text) (wellFormed : workflow.WellFormed) :
    (saveThenLoad key workflow).Ends stage (fun found _ => found = some workflow) fun _ => True := by
  have written : (setItem key workflow.recordText).Ends stage
      (fun _ after => after.store.items.get? key = some workflow.recordText) fun _ => True := by
    have writes := ends_written stage key workflow.recordText
    refine (writes.mono fun _ after replaced => ?_).mono_fails fun _ _ => trivial
    rw [Store.items_of_replace_put replaced, Table.get?_put, if_pos rfl]
  have saved : (save key workflow).Ends stage
      (fun _ after => after.store.items.get? key = some workflow.recordText) fun _ => True :=
    written.bind fun _ _ held => held
  exact saved.bind fun _ after held => ends_load_of_recordText wellFormed held

theorem Ready.saveThenLoad {stage : Stage} (ready : stage.Ready) (key : Text) (wellFormed : workflow.WellFormed)
    (takes : stage.store.Takes (stage.store.items.put key workflow.recordText)) :
    ∃ after, (saveThenLoad key workflow).perform stage = (.ok (some workflow), after) := by
  obtain ⟨saved, saves, wrote, -⟩ := ready.save takes
  obtain ⟨loaded, loads, -⟩ := (wrote.ready ready).load key
  have held : saved.store.items.get? key = some workflow.recordText := by rw [wrote.get?, if_pos rfl]
  rw [Store.saved_of_recordText held wellFormed] at loads
  rw [Stage.saveThenLoad, Effect.perform_bind_of_ok saves]
  exact ⟨loaded, loads⟩

end Stage

/-! ## What happens to a workflow -/

inductive Handling where
  | revise (revision : Revision)
  | keep (key : Text)
  deriving DecidableEq, Repr

namespace Handling

/-- What comes of it. No source of ids gives an empty one, and any store may serve. -/
inductive Makes (workflow : Workflow) : Handling → Workflow → Prop
  | revise {σ : Type} {draw : σ → Text × σ} {source after : σ} {revision : Revision} {edited : Workflow}
      (named : ∀ draws, ("" : Text) ∉ drawn draw draws source)
      (makes : revision.Makes draw source workflow edited after) : Makes workflow (.revise revision) edited
  | keep {key : Text} {stage after : Stage} {found : Workflow}
      (loaded : (Stage.saveThenLoad key workflow).perform stage = (.ok (some found), after)) :
      Makes workflow (.keep key) found

/-- The action with the id is not taken out, and no parameters are given to it. -/
def Spares (id : Text) : Handling → Prop
  | .revise (.remove other) => other ≠ id
  | .revise (.update other _ params) => other = id → params = none
  | .revise (.append _) | .revise (.reorder _ _) | .revise (.relabel _) | .keep _ => True

def kindGiven? (id : Text) : Handling → Option Kind
  | .revise (.update other kind _) => if other = id then kind else none
  | _ => none

def lastKind? (id : Text) (handlings : List Handling) : Option Kind :=
  (handlings.filterMap (kindGiven? id)).getLast?

theorem lastKind?_concat (id : Text) (handlings : List Handling) (handling : Handling) :
    lastKind? id (handlings ++ [handling]) = (handling.kindGiven? id).or (lastKind? id handlings) := by
  rw [lastKind?, List.filterMap_append, List.getLast?_append, lastKind?]
  cases given : handling.kindGiven? id <;> simp [given]

section

variable {workflow edited : Workflow} {handling : Handling}

theorem Makes.eq_of_keep {key : Text} (wellFormed : workflow.WellFormed)
    (makes : (Handling.keep key).Makes workflow edited) : edited = workflow := by
  cases makes with
  | @keep _ stage after _ loaded =>
    have ends := Stage.ends_saveThenLoad stage key wellFormed
    rw [Effect.Ends, loaded] at ends
    exact Option.some.inj ends

theorem Makes.wellFormed (makes : handling.Makes workflow edited) (wellFormed : workflow.WellFormed) :
    edited.WellFormed := by
  cases makes with
  | keep loaded => rwa [Makes.eq_of_keep wellFormed (.keep loaded)]
  | revise named makes =>
    cases makes with
    | append fresh =>
      obtain ⟨id, before, rfl, absent, -, last⟩ := Workflow.append?_spec fresh
      refine wellFormed.push _ absent ?_
      rintro rfl
      exact named (before + 1) (last ▸ List.mem_append_right _ (List.mem_singleton_self _))
    | remove id => exact wellFormed.remove id
    | update id kind params => exact wellFormed.update id kind params
    | reorder moved => exact wellFormed.reorder moved
    | relabel label => exact wellFormed.relabel label

theorem Makes.mem (makes : handling.Makes workflow edited) (wellFormed : workflow.WellFormed) {action : Action}
    (member : action ∈ workflow.actions) (spares : handling.Spares action.id) :
    action.amend (handling.kindGiven? action.id) none ∈ edited.actions := by
  cases makes with
  | keep loaded =>
    rw [Makes.eq_of_keep wellFormed (.keep loaded)]
    exact member
  | revise named makes =>
    cases makes with
    | append fresh =>
      obtain ⟨id, before, rfl, -⟩ := Workflow.append?_spec fresh
      exact List.mem_append_left _ member
    | remove id => exact List.mem_filter.mpr ⟨member, bne_iff_ne.mpr (Ne.symm spares)⟩
    | update id kind params =>
      refine List.mem_map.mpr ⟨action, member, ?_⟩
      by_cases same : action.id = id
      · rw [if_pos same, kindGiven?, if_pos same.symm, spares same.symm]
      · rw [if_neg same, kindGiven?, if_neg (Ne.symm same)]
        rfl
    | reorder moved => exact (Workflow.perm_reorder moved).mem_iff.mpr member
    | relabel label => exact member

end

end Handling

inductive Handled (start : Workflow) : List Handling → Workflow → Prop
  | start : Handled start [] start
  | next {handlings : List Handling} {workflow : Workflow} {handling : Handling} {edited : Workflow}
      (before : Handled start handlings workflow) (makes : handling.Makes workflow edited) :
      Handled start (handlings ++ [handling]) edited

namespace Handled

variable {start edited : Workflow} {handlings : List Handling}

theorem wellFormed (handled : Handled start handlings edited) (wellFormed : start.WellFormed) :
    edited.WellFormed := by
  induction handled with
  | start => exact wellFormed
  | next before makes ih => exact makes.wellFormed ih

theorem mem (handled : Handled start handlings edited) (wellFormed : start.WellFormed) {action : Action}
    (member : action ∈ start.actions) (spares : ∀ handling ∈ handlings, handling.Spares action.id) :
    action.amend (Handling.lastKind? action.id handlings) none ∈ edited.actions := by
  induction handled with
  | start => exact member
  | next before makes ih =>
    rw [List.forall_mem_append, List.forall_mem_singleton] at spares
    have kept := makes.mem (before.wellFormed wellFormed) (ih spares.1) spares.2
    rw [Handling.lastKind?_concat]
    rwa [Action.amend_amend] at kept

/-- Whatever happens to a workflow, an action that is neither taken out nor given parameters is found under its id
with the parameters that it had, and with the kind that it was given last. With its own kind again it is what it was,
and does what it did. All this can be saved at any time where the store takes it, and is loaded again. -/
theorem params_survive (wellFormed : start.WellFormed) {action : Action} (member : action ∈ start.actions)
    (handled : Handled start handlings edited) (spares : ∀ handling ∈ handlings, handling.Spares action.id) :
    ∃ left : Action, edited.find? action.id = some left ∧ left.params = action.params ∧
      left.kind = (Handling.lastKind? action.id handlings).getD action.kind ∧
      (Handling.lastKind? action.id handlings = some action.kind →
        left = action ∧ left.dispatch = action.dispatch) ∧
      ∀ stage : Stage, stage.Ready → ∀ key, stage.store.Takes (stage.store.items.put key edited.recordText) →
        ∃ after, (Stage.saveThenLoad key edited).perform stage = (.ok (some edited), after) := by
  have still := handled.wellFormed wellFormed
  have found := (Workflow.find?_eq_some_iff still.distinct).mpr ⟨handled.mem wellFormed member spares, rfl⟩
  refine ⟨_, found, rfl, rfl, fun back => ?_, fun stage ready key => ready.saveThenLoad key still⟩
  rw [back]
  exact ⟨rfl, rfl⟩

def emptyKey : Action := ⟨"a", .alert, { message := some "hi", key := some "" }⟩

def besideEmptyKey : Workflow := ⟨"", [emptyKey, ⟨"b", .disableButton, {}⟩]⟩

/-- The alert becomes a reload, which reads nothing; it is saved and loaded, the other action goes, another comes, and
it becomes an alert again. -/
def thereAndBack : List Handling :=
  [.revise (.update "a" (some .refreshPage) none), .keep "k", .revise (.remove "b"), .revise (.append .alert),
    .revise (.update "a" (some .alert) none)]

theorem params_survive_reload :
    besideEmptyKey.WellFormed ∧ emptyKey ∈ besideEmptyKey.actions ∧
      (∀ handling ∈ thereAndBack, handling.Spares "a") ∧
      ∃ edited, Handled besideEmptyKey thereAndBack edited ∧ edited.find? "a" = some emptyKey := by
  have wellFormed : besideEmptyKey.WellFormed := ⟨by decide, by decide⟩
  have member : emptyKey ∈ besideEmptyKey.actions := List.mem_cons_self
  have spares : ∀ handling ∈ thereAndBack, handling.Spares "a" := by simp [thereAndBack, Handling.Spares]
  have named : IdSource.Named {} := by simp [IdSource.Named]
  have ready : Stage.Ready { store := .memory [] } := ⟨Table.distinct_nil, fun _ _ => rfl⟩
  obtain ⟨after, loaded⟩ :=
    ready.saveThenLoad "k" (wellFormed.update "a" (some .refreshPage) none) Store.takes_memory
  have handled : Handled besideEmptyKey thereAndBack _ :=
    .next (.next (.next (.next (.next .start
      (.revise named.not_mem_drawn (.update "a" (some .refreshPage) none)))
      (.keep loaded))
      (.revise named.not_mem_drawn (.remove "b")))
      (.revise named.not_mem_drawn (.append (Workflow.append?_drawsFor _ .alert _))))
      (.revise named.not_mem_drawn (.update "a" (some .alert) none))
  obtain ⟨left, found, -, -, same, -⟩ := params_survive wellFormed member handled spares
  obtain ⟨rfl, -⟩ := same rfl
  exact ⟨wellFormed, member, spares, _, handled, found⟩

end Handled

end Pushbutton
