import Pushbutton.Proofs.Service.Answer
import Pushbutton.Proofs.Service.Whole
import Pushbutton.Proofs.Stage.Spared

/-! Requests that the service refuses: whatever the reason, nothing was written, and no run was begun. -/

set_option autoImplicit false

namespace Pushbutton.Service

open Stage

section

variable {start stage : Stage} {running : Prop}

def Response.Refuses (response : Response) : Prop := 400 ≤ response.status

theorem spares_answer {response : Response} (proper : response.status < 400) :
    Spares Response.Refuses running start (pure response) stage := spares_accepted (Nat.not_le.mpr proper)

theorem spares_readWorkflow (rests : Rests start stage) :
    Spares Response.Refuses running start readWorkflow stage := by
  apply (rests.ends (rests_load _)).bind
  intro saved after _
  cases saved with
  | none => exact spares_answer (by decide : 200 < 400)
  | some workflow => exact spares_answer (by decide : 200 < 400)

theorem spares_replaceWorkflow (rests : Rests start stage) (still : ¬ running) (whole : start.Whole) {record : Json}
    (given : record.AllTexts start.store.Fits) :
    Spares Response.Refuses running start (replaceWorkflow record) stage := by
  unfold replaceWorkflow
  cases read : Workflow.ofJson record with
  | error fault => exact rests.spares _
  | ok workflow =>
    have all := (Workflow.ofJson_iff_record.mp read).allTexts (Store.fits_ofString _) given
    apply (rests.save still whole all).bind
    intro _ after _
    exact spares_answer (by decide : 200 < 400)

theorem spares_relabel (rests : Rests start stage) (still : ¬ running) (whole : start.Whole) {label : Text}
    (given : start.store.Fits label) : Spares Response.Refuses running start (relabel label) stage := by
  apply (rests.relabel still whole given).bind
  intro workflow after _
  exact spares_answer (by decide : 200 < 400)

theorem spares_shownAction {workflow : Workflow} {id : Text} (present : (workflow.find? id).isSome)
    {status : Nat} (proper : status < 400) :
    Spares Response.Refuses running start (pure (shownAction status workflow id)) stage := by
  obtain ⟨action, _, shown⟩ := shownAction_of_isSome present status
  rw [shown]
  exact spares_answer proper

theorem spares_addAction (rests : Rests start stage) (still : ¬ running) (whole : start.Whole)
    (ids : stage.ids = start.ids) {given : NewAction}
    (fits : ∀ params ∈ given.params, params.AllTexts start.store.Fits) :
    Spares Response.Refuses running start (addAction given) stage := by
  apply (rests.addAction still whole ids given.kind fits).bind
  intro added after present
  exact spares_shownAction present (by decide)

theorem spares_amendAction (rests : Rests start stage) (still : ¬ running) (whole : start.Whole) (id : String)
    {given : Amendment} (fits : ∀ params ∈ given.params, params.AllTexts start.store.Fits) :
    Spares Response.Refuses running start (amendAction id given) stage := by
  apply (rests.editAction still whole id fun found all => all.update id given.kind fits).bind
  intro edited after came
  cases edited with
  | none => exact came.spares _
  | some workflow =>
    obtain ⟨found, present, rfl⟩ := came
    exact spares_shownAction (Workflow.isSome_find?_update_iff.mpr present) (by decide)

theorem spares_removeAction (rests : Rests start stage) (still : ¬ running) (whole : start.Whole) (id : String) :
    Spares Response.Refuses running start (removeAction id) stage := by
  apply (rests.editAction still whole id fun found all => all.remove id).bind
  intro edited after came
  cases edited with
  | none => exact came.spares _
  | some workflow => exact spares_answer (by decide : 204 < 400)

theorem spares_reorder (rests : Rests start stage) (still : ¬ running) (whole : start.Whole) (given : Move) :
    Spares Response.Refuses running start (reorder given) stage := by
  apply (rests.loadsOrEmpty whole).bind
  rintro workflow after ⟨⟨rests, _⟩, all⟩
  obtain ⟨source, target⟩ := given
  cases target with
  | none => exact spares_answer (by decide : 200 < 400)
  | some target =>
    dsimp only
    split
    · cases moves : workflow.reorder source (some target) with
      | error fault => exact Effect.ends_fail rests.spared
      | ok moved =>
        apply (rests.save still whole (all.reorder moves)).bind
        intro _ after _
        exact spares_answer (by decide : 200 < 400)
    · exact rests.spares _

theorem spares_readOutput (rests : Rests start stage) :
    Spares Response.Refuses running start readOutput stage := by
  apply (rests.ends rests_kept).bind
  intro output after _
  exact spares_answer (by decide : 200 < 400)

theorem spares_clearStorage (rests : Rests start stage) (still : ¬ running) :
    Spares Response.Refuses running start clearStorage stage := by
  apply (rests.clear still).bind
  intro _ after _
  exact fun refused => absurd refused (by decide : ¬ 400 ≤ 204)

/-- All that can refuse a run comes before its first action, and nothing that an action meets does. -/
theorem spares_play (rests : Rests start stage) (settings : Settings) (given : RunOrder)
    (workflow : Workflow) : Spares Response.Refuses running start (play settings given workflow) stage := by
  apply (rests.ends rests_restore).bind
  intro _ restored rests
  apply Effect.ends_modify_bind
  have page : Rests start
      { restored with
        host := .page given.answers given.openedByOther
        control := some { label := workflow.displayLabel } } := rests.trans ⟨rfl, rfl, rfl⟩
  apply (page.ends (Effect.keeps_ofExcept _)).bind
  intro pause ready _
  apply (ends_run pause workflow).bind
  intro report after _
  exact spares_answer (by decide : 200 < 400)

theorem spares_run (rests : Rests start stage) (settings : Option Settings) (given : RunOrder) :
    Spares Response.Refuses running start (run settings given) stage := by
  unfold run
  cases settings with
  | none => exact rests.spares _
  | some settings =>
    apply (rests.ends (rests_load _)).bind
    intro saved after rests
    cases saved with
    | none => exact rests.spares _
    | some workflow => exact spares_play rests settings given workflow

theorem spares_withBody {α : Type} (rests : Rests start stage) {form : Json → Checked α} {request : Request}
    {handle : α → Effect Response}
    (handled : ∀ value, readBody form request = .ok value →
      Spares Response.Refuses running start (handle value) stage) :
    Spares Response.Refuses running start (withBody form request handle) stage := by
  apply ends_withBody
  · exact fun _ _ _ => rests.spared
  · exact rests.spared
  · exact handled

theorem spares_handle (settings : Option Settings) {request : Request} (route : Route) {start : Stage}
    (whole : start.Whole) (given : request.AllTexts start.store.Fits) :
    Spares Response.Refuses (route = .run) start (handle settings request route) start := by
  have rests := Rests.refl start
  cases route with
  | health => exact spares_answer (by decide : 200 < 400)
  | readWorkflow => exact spares_readWorkflow rests
  | replaceWorkflow =>
    exact spares_withBody rests fun _ read =>
      spares_replaceWorkflow rests nofun whole (given.reads (fun _ => gives_anyObject) read)
  | relabel =>
    exact spares_withBody rests fun _ read =>
      spares_relabel rests nofun whole (given.reads (fun _ => gives_newLabel) read)
  | addAction =>
    exact spares_withBody rests fun _ read =>
      spares_addAction rests nofun whole rfl (given.reads (fun _ => gives_newAction) read)
  | amendAction id =>
    exact spares_withBody rests fun _ read =>
      spares_amendAction rests nofun whole id (given.reads (fun _ => gives_amendment) read)
  | removeAction id => exact spares_removeAction rests nofun whole id
  | reorder => exact spares_withBody rests fun given _ => spares_reorder rests nofun whole given
  | readOutput => exact spares_readOutput rests
  | run => exact spares_withBody rests fun given _ => spares_run rests settings given
  | clearStorage => exact spares_clearStorage rests nofun

end

theorem respond_of_unrouted {app : App} {request : Request}
    (unrouted : ∀ route, routing request.method (pathOf request.target) ≠ .found route) (stage : Stage) :
    (app.respond request stage).2 = stage := by
  cases asked : preflight? app.origins request with
  | some response => simp only [App.respond, asked]
  | none =>
    cases routed : routing request.method (pathOf request.target) with
    | found route => exact absurd routed (unrouted route)
    | unknown | otherMethod => simp only [App.respond, App.answer, asked, routed]

theorem spared_of_refused {app : App} {request : Request} {stage : Stage} (whole : stage.Whole)
    (given : request.AllTexts stage.store.Fits)
    (refused : 400 ≤ (app.respond request stage).1.status) :
    Spared (routing request.method (pathOf request.target) = .found .run) stage
      (app.respond request stage).2 := by
  by_cases found : ∃ route, routing request.method (pathOf request.target) = .found route
  · obtain ⟨route, routed⟩ := found
    rw [routed, Routing.found.injEq]
    rcases respond_of_ends routed (spares_handle app.settings route whole given) with
      ⟨response, after, answered, spares⟩ | ⟨after, broken, spares⟩
    · rw [answered] at refused ⊢
      exact spares refused
    · rw [broken]
      exact spares
  · rw [respond_of_unrouted (not_exists.mp found)]
    exact (Rests.refl stage).spared

end Pushbutton.Service
