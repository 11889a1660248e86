import Pushbutton.Proofs.Run.Page
import Pushbutton.Proofs.Run.Reload
import Pushbutton.Proofs.Workflow.SaveLoad
import Pushbutton.Service.Handler

/-! Runs that are asked of the service. The page that is told of in the answer, and the texts, go by the actions up to
the first reload and the answers that came with the order. -/

set_option autoImplicit false

namespace Pushbutton

namespace Stage

open Effect

variable {fine : Prop} {stage : Stage}

theorem Used.output {after : Stage} (used : Used stage.store.items stage after) :
    after.store.output = stage.store.output := by
  rw [Store.output, used.items]
  rfl

theorem used_kept (ready : fine → stage.Ready) :
    kept.Ends stage (fun output after => output = after.store.output ∧ Used stage.store.items stage after)
      (fun _ => ¬ fine) := by
  apply (used_getItem ready _).bind
  rintro _ between ⟨rfl, first⟩
  have again (held : fine) : between.Ready := first.ready (ready held)
  apply (used_getItem again _).bind
  rintro _ after ⟨rfl, second⟩
  have both := first.trans second
  rw [first.items] at both ⊢
  exact ⟨both.output.symm, both⟩

theorem used_load (ready : fine → stage.Ready) {key : Text} {found : Option Workflow}
    (saved : stage.store.saved key = .ok found) :
    (load key).Ends stage (fun value after => value = found ∧ Used stage.store.items stage after)
      (fun _ => ¬ fine) := by
  apply (used_getItem ready key).bind
  rintro _ after ⟨rfl, used⟩
  unfold Store.saved at saved
  cases held : stage.store.items.get? key with
  | none =>
    rw [held] at saved
    cases saved
    exact ⟨rfl, used⟩
  | some text =>
    rw [held] at saved
    dsimp only at saved
    cases read : Workflow.ofRecordText text with
    | error fault =>
      rw [read] at saved
      cases saved
    | ok taken =>
      rw [read] at saved
      cases saved
      have parsed : (ofExcept (Workflow.ofRecordText text)).Ends after (fun value now => value = taken ∧ now = after)
          (fun _ => ¬ fine) := by
        rw [read]
        exact ⟨rfl, rfl⟩
      apply parsed.bind
      rintro taken after ⟨rfl, rfl⟩
      cases taken with
      | ok workflow => exact ⟨rfl, used⟩
      | error reason =>
        obtain ⟨⟨store, log, events, calls, rfl⟩, items, place, still⟩ := used
        exact ⟨rfl, ⟨_, _, _, _, rfl⟩, items, place, fun held => (still held).of_eq rfl rfl⟩

end Stage

namespace Service

open Stage Effect

/-- The stage as it is laid out for a run: a page and a button of its own, and the output that the store kept. -/
def laidOut (given : RunOrder) (workflow : Workflow) (stage : Stage) : Stage :=
  { stage with
    output := stage.store.output
    backed := true
    host := .page given.answers given.openedByOther
    control := some { label := workflow.displayLabel } }

variable {settings : Settings} {given : RunOrder} {workflow : Workflow} {stage : Stage}

theorem used_laidOut {after : Stage} (used : Used stage.store.items stage after) :
    Used stage.store.items (laidOut given workflow stage) (laidOut given workflow after) := by
  have output := used.output
  have items := used.items
  have ready := used.ready
  have place := used.place
  obtain ⟨⟨store, log, events, calls, rfl⟩, -, -, -⟩ := used
  refine ⟨⟨store, log, events, calls, ?_⟩, items, place, fun held => (ready (held.of_eq rfl rfl)).of_eq rfl rfl⟩
  rw [laidOut, output]
  rfl

def Playable (settings : Settings) (stage : Stage) : Prop := stage.Ready ∧ ∃ delay, settings.pause = .ok delay

structure Played (settings : Settings) (given : RunOrder) (workflow : Workflow) (stage : Stage) (response : Response)
    (last : Stage) (delay : Seconds) (begun : Stage) (report : Report) : Prop where
  pause : settings.pause = .ok delay
  laidOut : Used stage.store.items (laidOut given workflow stage) begun
  ran : (Stage.run delay workflow).perform begun = (.ok report, last)
  response : response = .ofJson (runView report last)

theorem played_play (settings : Settings) (given : RunOrder) (workflow : Workflow) (stage : Stage) :
    (play settings given workflow).Ends stage
      (fun response last => ∃ delay begun report, Played settings given workflow stage response last delay begun report)
      (fun _ => ¬ Playable settings stage) := by
  have kept : kept.Ends stage _ (fun _ => ¬ Playable settings stage) :=
    used_kept And.left
  rw [play, restore, bind_assoc]
  apply kept.bind
  rintro _ between ⟨rfl, used⟩
  have laid : Used stage.store.items _ (laidOut given workflow between) := used_laidOut used
  apply ends_modify_bind
  apply ends_modify_bind
  cases pause : settings.pause with
  | error fault =>
    rintro ⟨_, delay, here⟩
    cases pause.symm.trans here
  | ok delay => exact ⟨delay, _, _, pause, laid, rfl, rfl⟩

theorem played_run (settings : Settings) (given : RunOrder)
    (saved : stage.store.saved Workflow.savedKey = .ok (some workflow)) :
    (Service.run (some settings) given).Ends stage
      (fun response last => ∃ delay begun report, Played settings given workflow stage response last delay begun report)
      (fun _ => ¬ Playable settings stage) := by
  have loads : (Stage.load Workflow.savedKey).Ends stage _ (fun _ => ¬ Playable settings stage) :=
    used_load And.left saved
  apply loads.bind
  rintro _ between ⟨rfl, used⟩
  have plays : (play settings given workflow).Ends between _ (fun _ => ¬ Playable settings stage) :=
    (played_play settings given workflow between).mono_fails fun _ unready held => unready (held.imp_left used.ready)
  apply plays.mono
  rintro response last ⟨delay, begun, report, pause, laid, ran, answered⟩
  have both := (used_laidOut used).trans laid
  rw [used.items] at both
  exact ⟨delay, begun, report, pause, both, ran, answered⟩

/-- A saved workflow is run when that is asked for, and if no call raises a fault, as none can where the store takes
every text, then no action fails and the page, the texts and the store at the end are those that the actions up to the
first reload account for. The output starts from what the store kept. -/
theorem run_accounts (settings : Settings) (given : RunOrder)
    (saved : stage.store.saved Workflow.savedKey = .ok (some workflow)) :
    let served := (Service.run (some settings) given).perform stage
    (Playable settings stage → ∃ response last, served = (.ok response, last)) ∧
    ∀ response last, served = (.ok response, last) → ∃ delay begun report,
      Played settings given workflow stage response last delay begun report ∧
      ((laidOut given workflow stage).Fluent →
        (∀ action ∈ workflow.actions, action.params.AllTexts stage.store.Fits) → Step.Unfailing report.steps) ∧
      (Step.Unfailing report.steps →
        let acted := Action.throughReload workflow.actions
        let after count := (performer delay).midway workflow count begun
        report.steps = acted.mapIdx (Action.toStep true) ∧
        AccountsFor given.answers given.openedByOther (laidOut given workflow stage) acted after last) := by
  intro served
  have runs := played_run settings given saved
  unfold Ends at runs
  refine ⟨fun playable => ?_, fun response last performed => ?_⟩
  · split at runs
    · next response last performed => exact ⟨response, last, performed⟩
    · exact absurd playable runs
  · dsimp only [served] at performed
    rw [performed] at runs
    obtain ⟨delay, begun, report, played⟩ := runs
    refine ⟨delay, begun, report, played, fun fluent fits => ?_, fun unfailing => ?_⟩
    · have begins := played.laidOut.fluent fluent.ready fluent.items fluent.given
      obtain ⟨_, _, ran, unfailing, -⟩ := begins.run delay fun action member field text given =>
        (fits action member field text given).of_path? played.laidOut.place
      cases played.ran.symm.trans ran
      exact unfailing
    · obtain ⟨_, ⟨⟨store, log, events, calls, rfl⟩, items, -, -⟩, ran, -⟩ := played
      have accounts := accountsFor_of_run ran unfailing rfl
      exact ⟨steps_eq ran unfailing, { accounts with first := accounts.first.trans items }⟩

/-- Two questions are asked, of which one is answered, and the page is reloaded before the last action. -/
def asking : Workflow where
  actions := [{ id := "a", kind := .showText, params := { message := some "x" } },
    { id := "b", kind := .promptAndShow },
    { id := "c", kind := .promptAndShow, params := { message := some "Again?" } },
    { id := "d", kind := .closeWindow }, { id := "e", kind := .refreshPage }, { id := "f", kind := .alert }]

theorem run_accounts_asking :
    let stage : Stage := { store := .memory [(Workflow.savedKey, asking.recordText)] }
    ∃ response last, (Service.run (some { delay := 0 }) ⟨[some "b"], false⟩).perform stage = (.ok response, last) ∧
      last.host.surface = .page [] ["Please close it manually."] ["Enter your input:", "Again?"] ∧
      last.host.closed = false ∧ last.host.reloaded = true ∧
      last.output.response = "b" ∧ last.output.text = "Response: b" := by
  intro stage
  have wellFormed : asking.WellFormed := ⟨by decide, by decide⟩
  have saved : stage.store.saved Workflow.savedKey = .ok (some asking) := Store.saved_of_recordText rfl wellFormed
  have ready : stage.Ready := ⟨List.nodup_singleton _, fun _ _ => rfl⟩
  obtain ⟨answers, told⟩ := run_accounts { delay := 0 } ⟨[some "b"], false⟩ saved
  obtain ⟨response, last, answered⟩ := answers ⟨ready, _, rfl⟩
  obtain ⟨delay, begun, report, -, calm, accounts⟩ := told response last answered
  have fluent : (laidOut ⟨[some "b"], false⟩ asking stage).Fluent :=
    ⟨ready.of_eq rfl rfl, Store.takes_memory,
      List.forall_mem_singleton.mpr (Store.fits_ofString _ _)⟩
  have unfailing := calm fluent fun _ _ _ _ _ => Store.fits_memory
  obtain ⟨-, surface, closed, reloaded, answer, -, -, -, heard, text⟩ := accounts unfailing
  refine ⟨response, last, answered, surface.trans (by decide +kernel), ?_, reloaded.mpr (by decide),
    heard.trans (by decide +kernel), text.trans ?_⟩
  · rw [Bool.eq_false_iff]
    exact fun shut => nomatch (closed.mp shut).1
  · simp only [answer]
    rfl

end Service

end Pushbutton
