import Pushbutton.Proofs.Run.Invariant
import Pushbutton.Proofs.Stage.Access
import Pushbutton.Proofs.Stage.Ends
import Pushbutton.Proofs.Stage.Whole
import Pushbutton.Proofs.Store.Intact

/-! What effects leave when they fail. Reading leaves the store alone whether or not it succeeds, and an edit
writes once, after all else in which it can fail. What it then writes has no halves if nothing had any before. -/

set_option autoImplicit false

namespace Pushbutton

/-- A workflow can only come from contents that can be read. -/
theorem Store.contents_of_saved {store : Store} {key : Text} {workflow : Workflow}
    (saved : store.saved key = .ok (some workflow)) : ∃ contents, store.contents = .ok contents := by
  cases read : store.contents with
  | ok contents => exact ⟨contents, rfl⟩
  | error fault =>
    rw [Store.saved, Store.items_of_fault read] at saved
    cases saved

theorem Store.open_of_saved {path : Path} {tree : FileTree} {key : Text} {workflow : Workflow}
    (saved : Store.saved (.file path tree) key = .ok (some workflow)) :
    Store.Usable (.file path tree) ∧ ∃ location, tree.Open path location := by
  obtain ⟨contents, read⟩ := Store.contents_of_saved saved
  have there : ∃ octets, tree.content? path = .ok (some octets) := by
    cases content : tree.content? path with
    | error fault =>
      rw [Store.contents, content] at read
      cases read
    | ok octets? =>
      cases octets? with
      | none =>
        rw [Store.saved, Store.items, content] at saved
        cases saved
      | some octets => exact ⟨octets, rfl⟩
  obtain ⟨octets, content⟩ := there
  have file := FileTree.fileAt?_of_content? content
  obtain ⟨location, leads⟩ := FileTree.find_of_fileAt? file
  refine ⟨⟨⟨contents, read⟩, FileTree.creatable_of_fileAt? file⟩, location, ?_⟩
  exact ⟨FileTree.find_parent_of_fileAt? file, by rw [leads]; rfl⟩

def Event.call? : Event → Option Call
  | .called call => some call
  | _ => none

namespace Stage

def acts (stage : Stage) : List Call := stage.events.filterMap Event.call?

/-- The store is the same, and nothing but reading was asked of it or of the host. -/
structure Rests (before after : Stage) : Prop where
  store : after.store = before.store
  acts : after.acts = before.acts
  refusal : after.refusal = before.refusal

/-- What a refusal leaves: the items from before and, if a run was asked for, no trace of one. -/
structure Spared (running : Prop) (before after : Stage) : Prop where
  intact : before.store.Intact after.store
  rests : running → Rests before after

theorem Rests.refl (stage : Stage) : Rests stage stage := ⟨rfl, rfl, rfl⟩

theorem Rests.trans {first second third : Stage} (one : Rests first second) (two : Rests second third) :
    Rests first third :=
  ⟨two.store.trans one.store, two.acts.trans one.acts, two.refusal.trans one.refusal⟩

theorem Rests.spared {running : Prop} {before after : Stage} (rests : Rests before after) :
    Spared running before after :=
  ⟨rests.store ▸ .refl before.store, fun _ => rests⟩

theorem Spared.of_rests {running : Prop} {before middle after : Stage} (spared : Spared running before middle)
    (rests : Rests middle after) : Spared running before after :=
  ⟨rests.store ▸ spared.intact, fun runs => (spared.rests runs).trans rests⟩

theorem Rests.ready {before after : Stage} (rests : Rests before after) (ready : before.Ready) : after.Ready :=
  ready.of_eq rests.store rests.refusal

/-! ## Reading -/

section

open Effect

variable {start : Stage}

theorem rests_modify {change : Stage → Stage} (rests : ∀ stage, Rests stage (change stage)) :
    Keeps (Rests start) (modify change : Effect Unit) :=
  keeps_modify fun stage rested => rested.trans (rests stage)

theorem rests_note (entry : Log.Entry) : Keeps (Rests start) (note entry) :=
  rests_modify fun _ => ⟨rfl, rfl, rfl⟩

theorem rests_permit (call : Call) : Keeps (Rests start) (permit call) := by
  apply keeps_get_bind
  intro stage rests
  rw [perform_bind_of_ok (perform_set _ _)]
  split
  · exact rests.trans ⟨rfl, rfl, rfl⟩
  · exact rests.trans ⟨rfl, rfl, rfl⟩

theorem rests_items : Keeps (Rests start) items := by
  intro stage rests
  rw [perform_items]
  exact rests.trans ⟨rfl, rfl, rfl⟩

theorem rests_getItem (key : Text) : Keeps (Rests start) (getItem key) := by
  apply Keeps.bind (rests_permit _)
  intro _
  apply Keeps.bind rests_items
  intro items
  exact keeps_pure _

theorem rests_load (key : Text) : Keeps (Rests start) (load key) := by
  apply Keeps.bind (rests_getItem key)
  intro held
  cases held with
  | none => exact keeps_pure none
  | some text =>
    refine Keeps.bind (keeps_ofExcept _) fun read => ?_
    cases read with
    | ok workflow => exact keeps_pure (some workflow)
    | error reason => exact Keeps.bind (rests_note _) fun _ => keeps_pure none

theorem rests_kept : Keeps (Rests start) kept := keeps_kept_of_getItem rests_getItem

theorem rests_restore : Keeps (Rests start) restore := by
  apply Keeps.bind rests_kept
  intro output
  exact rests_modify fun _ => ⟨rfl, rfl, rfl⟩

end

/-! ## Writing -/

section

open Effect

variable {start stage : Stage} {running : Prop}

/-- The effect comes to a value that is no refusal, or everything is as at the start. -/
def Spares {α : Type} (refuses : α → Prop) (running : Prop) (start : Stage) (effect : Effect α)
    (stage : Stage) : Prop :=
  effect.Ends stage (fun value after => refuses value → Spared running start after) (Spared running start)

theorem spares_accepted {α : Type} {refuses : α → Prop} {value : α} (accepted : ¬ refuses value) :
    Spares refuses running start (pure value) stage := fun refused => absurd refused accepted

theorem Rests.spares {α : Type} {refuses : α → Prop} (rests : Rests start stage) (value : α) :
    Spares refuses running start (pure value) stage := fun _ => rests.spared

theorem Rests.ends {α : Type} {effect : Effect α} (rests : Rests start stage)
    (keeps : effect.Keeps (Rests start)) :
    effect.Ends stage (fun _ after => Rests start after) (Spared running start) := by
  have rested := keeps stage rests
  unfold Ends
  split
  · next performed => rwa [performed] at rested
  · next performed =>
    rw [performed] at rested
    exact rested.spared

section

variable {fails : Stage → Prop} (failed : ∀ after, after.store = start.store → fails after)

include failed

theorem ends_call (same : stage.store = start.store) (call : Call) :
    (Stage.call call).Ends stage (fun _ after => after.store = start.store) fails := by
  unfold Ends
  cases refused : stage.refusal stage.calls call with
  | none =>
    rw [perform_call refused]
    exact same
  | some fault =>
    rw [perform_call_refused refused]
    exact failed _ same

theorem ends_items (same : stage.store = start.store) :
    items.Ends stage (fun items after => items = start.store.items ∧ after.store = start.store) fails := by
  unfold Ends
  rw [perform_items, ← same]
  cases read : stage.store.contents with
  | ok contents => exact ⟨Store.contents_items read, rfl⟩
  | error fault => exact failed _ same

end

/-- Writing is the last thing in which a use of the store can fail. -/
theorem ends_replaced (same : stage.store = start.store) (items : Table Text Text) :
    (replaceItems items).Ends stage (fun _ after => start.store.replace items = .ok after.store)
      (fun after => start.store.Abandoned items after.store) := by
  apply ends_replaceItems
  · exact fun changed replaced => same ▸ replaced
  · intro fault failed
    rw [same] at failed ⊢
    exact Store.abandoned_of_replace failed

theorem ends_written (start : Stage) (key value : Text) :
    (Stage.setItem key value).Ends start
      (fun _ after => start.store.replace (start.store.items.put key value) = .ok after.store)
      (fun after => start.store.Abandoned (start.store.items.put key value) after.store) := by
  have failed (after : Stage) (same : after.store = start.store) :
      start.store.Abandoned (start.store.items.put key value) after.store := .inl (same ▸ .refl start.store)
  apply (ends_call failed rfl _).bind
  intro _ called same
  apply (ends_items failed same).bind
  rintro _ read ⟨rfl, same⟩
  exact ends_replaced same _

theorem ends_cleared :
    Stage.clear.Ends start (fun _ after => start.store.replace [] = .ok after.store)
      (fun after => start.store.Intact after.store) := by
  apply (ends_call (fun _ same => same ▸ .refl start.store) rfl _).bind
  intro _ called same
  exact (ends_replaced same []).mono_fails fun after abandoned => abandoned.intact (Store.takes_nil _)

theorem Rests.writes {α : Type} {effect : Effect α} {gives : α → Stage → Prop} (rests : Rests start stage)
    (still : ¬ running) (ends : effect.Ends stage gives fun after => stage.store.Intact after.store) :
    effect.Ends stage (fun _ _ => True) (Spared running start) := by
  apply (ends.mono fun _ _ _ => trivial).mono_fails
  exact fun after intact => ⟨rests.store ▸ intact, fun runs => absurd runs still⟩

theorem Rests.clear (rests : Rests start stage) (still : ¬ running) :
    Stage.clear.Ends stage (fun _ _ => True) (Spared running start) := rests.writes still ends_cleared

theorem Rests.save (rests : Rests start stage) (still : ¬ running) (whole : start.Whole) {workflow : Workflow}
    (all : workflow.AllTexts start.store.Fits) :
    (Stage.save Workflow.savedKey workflow).Ends stage (fun _ _ => True) (Spared running start) := by
  have takes := whole.takes all
  rw [← rests.store] at takes
  have written := (ends_written stage Workflow.savedKey workflow.recordText).mono_fails
    fun after abandoned => abandoned.intact takes
  exact (rests.writes still written).bind fun _ _ _ => trivial

/-! ## Edits of the saved workflow -/

theorem saved_of_load {key : Text} {found : Option Workflow} {after : Stage}
    (loads : (load key).perform stage = (.ok found, after)) :
    stage.store.saved key = .ok found ∧ Unmoved stage after := by
  cases refused : stage.refusal stage.calls (.getItem key) with
  | some fault =>
    have failed : (getItem key).perform stage = (.error fault, stage.counted) :=
      perform_bind_of_error (perform_permit_refused refused) _
    rw [load, perform_bind_of_error failed] at loads
    cases loads
  | none =>
    obtain ⟨later, loaded, unmoved⟩ := perform_load refused
    rw [loaded] at loads
    cases read : stage.store.contents with
    | error fault => rw [read] at loads; cases loads
    | ok contents =>
      rw [read, Prod.mk.injEq] at loads
      exact ⟨loads.1, loads.2 ▸ unmoved⟩

theorem Rests.loads (rests : Rests start stage) (key : Text) :
    (load key).Ends stage
      (fun found after => Rests start after ∧ after.ids = stage.ids ∧ start.store.saved key = .ok found)
      (Spared running start) := by
  have rested := rests_load key stage rests
  unfold Ends
  split
  · next found after loads =>
    obtain ⟨saved, unmoved⟩ := saved_of_load loads
    rw [loads] at rested
    exact ⟨rested, unmoved.ids, rests.store ▸ saved⟩
  · next loads =>
    rw [loads] at rested
    exact rested.spared

theorem Rests.loadsOrEmpty (rests : Rests start stage) (whole : start.Whole) :
    (loadOrEmpty Workflow.savedKey).Ends stage
      (fun workflow after => (Rests start after ∧ after.ids = stage.ids) ∧ workflow.AllTexts start.store.Fits)
      (Spared running start) := by
  apply (rests.loads Workflow.savedKey).bind
  rintro found after ⟨rests, ids, saved⟩
  exact ends_pure ⟨⟨rests, ids⟩, whole.saved_getD saved⟩

theorem Rests.relabel (rests : Rests start stage) (still : ¬ running) (whole : start.Whole) {label : Text}
    (given : start.store.Fits label) :
    (Stage.relabel label).Ends stage (fun _ _ => True) (Spared running start) := by
  apply (rests.loadsOrEmpty whole).bind
  rintro workflow loaded ⟨⟨rests, _⟩, all⟩
  apply (rests.save still whole (all.relabel given)).bind
  exact fun _ _ _ => trivial

theorem Rests.addAction (rests : Rests start stage) (still : ¬ running) (whole : start.Whole)
    (ids : stage.ids = start.ids) (kind : Kind) {params : Option Params}
    (given : ∀ some ∈ params, some.AllTexts start.store.Fits) :
    (Stage.addAction kind params).Ends stage (fun added _ => (added.2.find? added.1).isSome)
      (Spared running start) := by
  apply (rests.loadsOrEmpty whole).bind
  rintro workflow loaded ⟨⟨rests, untouched⟩, all⟩
  apply ends_get_bind
  apply ends_modify_bind
  obtain ⟨_, fits, _⟩ := Workflow.freshId_of_pending (fun _ => Store.fits_ofString _ _) workflow whole.ids
  rw [← ids, ← untouched] at fits
  have drew : Rests start { loaded with ids := (workflow.freshId loaded.ids).2 } := rests.trans ⟨rfl, rfl, rfl⟩
  have pushed := all.push fits kind
  have present := workflow.isSome_find?_push (workflow.freshId loaded.ids).1 kind
  cases params with
  | none =>
    apply (drew.save still whole pushed).bind
    exact fun _ _ _ => ends_pure present
  | some params =>
    apply (drew.save still whole (pushed.update _ none given)).bind
    exact fun _ _ _ => ends_pure (Workflow.isSome_find?_update_iff.mpr present)

theorem Rests.editAction (rests : Rests start stage) (still : ¬ running) (whole : start.Whole) (id : Text)
    {edit : Workflow → Workflow}
    (keeps : ∀ found : Workflow, found.AllTexts start.store.Fits → (edit found).AllTexts start.store.Fits) :
    (Stage.editAction id edit).Ends stage
      (fun edited after =>
        match edited with
        | none => Rests start after
        | some workflow => ∃ found : Workflow, (found.find? id).isSome ∧ workflow = edit found)
      (Spared running start) := by
  apply (rests.loadsOrEmpty whole).bind
  rintro workflow loaded ⟨⟨rests, _⟩, all⟩
  dsimp only
  cases found : workflow.find? id with
  | none => exact rests
  | some action =>
    apply (rests.save still whole (keeps _ all)).bind
    intro _ after _
    exact ⟨workflow, by rw [found]; rfl, rfl⟩

/-! ## Runs -/

/-- Faults of actions are recorded with their outcomes, so a run itself comes to a report. Whatever it wrote,
the store can then be read and written if it could be before. -/
theorem ends_run {fails : Stage → Prop} (delay : Seconds) (workflow : Workflow) :
    (Stage.run delay workflow).Ends stage (fun _ after => stage.Ready → after.Ready) fails := by
  have keeps : (Stage.run delay workflow).Keeps (Lapsing (fun _ => False) stage) :=
    keeps_run (fun _ _ _ _ => id) id id delay
  intro ready
  exact (keeps stage ready.lapsing).ready

theorem ends_getItem (ready : stage.Ready) (key : Text) {fails : Stage → Prop} :
    (getItem key).Ends stage (fun _ after => after.Ready) fails := by
  unfold Ends
  rw [ready.getItem]
  exact ready.counted.noted

theorem ends_restore (ready : stage.Ready) {fails : Stage → Prop} :
    restore.Ends stage (fun _ _ => True) fails := by
  simp only [restore, kept, bind_assoc, pure_bind]
  apply (ends_getItem ready _).bind
  intro text after ready
  apply (ends_getItem ready _).bind
  exact fun _ _ _ => trivial

structure Plain (stage : Stage) : Prop where
  stored : ∃ path tree, stage.store = .file path tree
  permits : ∀ number call, stage.refusal number call = none

theorem ends_load (plain : Plain start) (key : Text) :
    (load key).Ends start (fun found after => Rests start after ∧ (found.isSome → start.Ready))
      (Spared running start) := by
  apply ((Rests.refl start).loads key).mono
  rintro found after ⟨rests, _, saved⟩
  refine ⟨rests, fun held => ?_⟩
  obtain ⟨workflow, rfl⟩ := Option.isSome_iff_exists.mp held
  obtain ⟨path, tree, stored⟩ := plain.stored
  rw [stored] at saved
  exact ⟨stored ▸ (Store.open_of_saved saved).1, plain.permits⟩

end

end Stage

end Pushbutton
