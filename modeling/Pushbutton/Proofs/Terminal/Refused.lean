import Pushbutton.Proofs.Edit.Channel
import Pushbutton.Proofs.Run.Trace
import Pushbutton.Proofs.Service.Refused

/-! Calls of the program that do not succeed: however they end, nothing was written, and no run was begun. A run
that is begun ends with success, whatever becomes of its actions. -/

set_option autoImplicit false

namespace Pushbutton

namespace Terminal

open Stage Effect

section

variable {start stage : Stage} {running : Prop}

def Ending.Fails (ending : Ending) : Prop := ending.status ≠ 0

theorem spares_done : Spares Ending.Fails running start done stage := spares_accepted fun failed => failed rfl

theorem perform_printLines (lines : List Text) (stage : Stage) :
    (printLines lines).perform stage =
      (.ok (), { stage with events := stage.events ++ lines.map .printed }) := by
  induction lines generalizing stage with
  | nil =>
    rw [List.map_nil, List.append_nil]
    rfl
  | cons line lines ih =>
    have printed : (record (.printed line)).perform stage =
      (.ok (), { stage with events := stage.events ++ [.printed line] }) := rfl
    have both : printLines (line :: lines) = record (.printed line) >>= fun _ => printLines lines := rfl
    rw [both, perform_bind_of_ok printed, ih, List.append_assoc, List.singleton_append, List.map_cons]

theorem ends_printLines (lines : List Text) {fails : Stage → Prop} :
    (printLines lines).Ends stage (fun _ after => Rests stage after) fails := by
  unfold Ends
  rw [perform_printLines]
  refine ⟨rfl, ?_, rfl⟩
  simp [acts, Event.call?, List.filterMap_map, Function.comp_def]

theorem spares_printed (lines : List Text) :
    Spares Ending.Fails running start (printLines lines >>= fun _ => done) stage := by
  apply (ends_printLines lines).bind
  exact fun _ _ _ => spares_done

theorem spares_edited (rests : Rests start stage) (still : ¬ running) (whole : start.Whole) (id : String)
    {edit : Workflow → Workflow}
    (keeps : ∀ found : Workflow, found.AllTexts start.store.Fits → (edit found).AllTexts start.store.Fits) :
    Spares Ending.Fails running start (editAction id edit >>= fun found => pure (edited id found)) stage := by
  apply (rests.editAction still whole id keeps).bind
  intro found after came
  cases found with
  | none => exact came.spares _
  | some workflow => exact spares_done

theorem spares_moveAction (rests : Rests start stage) (still : ¬ running) (whole : start.Whole) (source : Int)
    (target : Option Int) : Spares Ending.Fails running start (moveAction source target) stage := by
  apply (rests.loadsOrEmpty whole).bind
  rintro workflow loaded ⟨⟨rests, _⟩, all⟩
  apply (rests.ends (keeps_ofExcept _)).bind
  intro inside after rests
  cases inside with
  | true =>
    simp only [if_true]
    cases moves : workflow.reorder source target with
    | error fault => exact ends_fail rests.spared
    | ok moved =>
      apply (rests.save still whole (all.reorder moves)).bind
      exact fun _ _ _ => spares_done
  | false => exact rests.spares _

/-! ## Runs -/

/-- What can go wrong goes wrong on the way to the run. After it the store can be read again, whatever the
actions wrote. -/
theorem ends_runWorkflow (rests : Rests start stage) (ready : start.Ready) (settings : Settings)
    (workflow : Workflow) :
    (runWorkflow settings workflow).Ends stage (fun _ _ => True) (Spared running start) := by
  apply (rests.ends rests_restore).bind
  intro _ restored rests
  apply ends_modify_bind
  have fresh : Rests start { restored with control := some (freshControl workflow) } :=
    rests.trans ⟨rfl, rfl, rfl⟩
  apply (fresh.ends (keeps_ofExcept _)).bind
  intro pause begun rests
  apply (ends_run pause workflow).bind
  intro report after kept
  -- from here on nothing can fail: the store can be read again, and the rest is printed
  have shows (last : Stage) : Ends (do
      let stage ← get
      printLines ((stage.control.getD {}).render stage.output)) last (fun _ _ => True)
        (Spared running start) :=
    ends_get_bind ((ends_printLines _).mono fun _ _ _ => trivial)
  apply ends_get_bind
  dsimp only
  split
  · apply (ends_restore (kept (rests.ready ready))).bind
    intro _ later _
    exact ends_modify_bind (shows _)
  · exact shows after

/-! ## Commands -/

def Command.Runs (command : Command) : Prop := ∃ openedByOther noWait, command = .run openedByOther noWait

def Command.params? : Command → Option Params
  | .add _ params | .update _ _ params => params
  | _ => none

/-- What is read from arguments has no halves, since they have none. -/
theorem Command.allTexts_of_read {property : Text → Prop} (fixed : ∀ string : String, property string)
    {arguments : List String} {command : Command} (asked : Command.read arguments = .ok command) :
    ∀ params ∈ command.params?, params.AllTexts property := by
  have given (reading : Reading) : ∀ params ∈ paramsOf reading, params.AllTexts property := by
    intro params given field text held
    unfold paramsOf at given
    dsimp only at given
    split at given
    · cases given
    · cases given
      rw [Params.get_ofFields] at held
      obtain ⟨string, _, rfl⟩ := Option.map_eq_some_iff.mp held
      exact fixed string
  have ofReading (name : String) (reading : Reading) :
      ∀ params ∈ (Command.ofReading name reading).params?, params.AllTexts property := by
    unfold Command.ofReading
    split <;> first | exact given reading | nofun
  simp only [Command.read, bind_eq_ok_iff] at asked
  obtain ⟨outer, _, asked⟩ := asked
  split at asked
  · cases asked
  · obtain ⟨inner, _, asked⟩ := bind_eq_ok_iff.mp asked
    split at asked
    · cases asked
      exact ofReading _ inner
    · cases asked

theorem spares_perform (plain : Plain start) (whole : start.Whole) (settings : Settings) {command : Command}
    (given : ∀ params ∈ command.params?, params.AllTexts start.store.Fits) :
    Spares Ending.Fails command.Runs start (perform settings command) start := by
  have rests := Rests.refl start
  cases command with
  | «show» =>
    apply (rests.ends (rests_load _)).bind
    intro found after _
    cases found with
    | none => exact spares_printed _
    | some workflow => exact spares_printed _
  | add kind params =>
    apply (rests.addAction nofun whole rfl kind given).bind
    exact fun _ _ _ => spares_printed _
  | remove id => exact spares_edited rests nofun whole id fun _ all => all.remove id
  | update id kind params => exact spares_edited rests nofun whole id fun _ all => all.update id kind given
  | move source target => exact spares_moveAction rests nofun whole source target
  | label text =>
    apply (rests.relabel nofun whole (Store.fits_ofString _ text)).bind
    exact fun _ _ _ => spares_done
  | run openedByOther noWait =>
    apply (ends_load plain _).bind
    intro found after loaded
    obtain ⟨rests, ready⟩ := loaded
    cases found with
    | none =>
      apply (ends_printLines _).bind
      exact fun _ _ printed => (rests.trans printed).spares _
    | some workflow =>
      apply ends_modify_bind
      refine (ends_runWorkflow (rests.trans ?_) (ready rfl) settings workflow).bind ?_
      · exact ⟨rfl, rfl, rfl⟩
      · exact fun _ _ _ => spares_done
  | output =>
    apply (rests.ends rests_restore).bind
    intro _ after rests
    apply ends_get_bind
    apply (rests.ends (keeps_ofExcept _)).bind
    exact fun _ _ _ => spares_printed _
  | clear =>
    apply (rests.clear nofun).bind
    exact fun _ _ _ => spares_done
  | serve host port => exact spares_done

end

/-! ## Calls -/

theorem performOrReport_spared {start : Stage} (plain : Plain start) (whole : start.Whole) (settings : Settings)
    {command : Command} (given : ∀ params ∈ command.params?, params.AllTexts start.store.Fits) :
    ∃ ending after, (performOrReport settings command).perform start = (.ok ending, after) ∧
      (ending.Fails → Spared command.Runs start after) := by
  have ends := spares_perform plain whole settings given
  unfold Spares Ends at ends
  cases performed : (perform settings command).perform start with
  | mk result after =>
    rw [performed] at ends
    cases result with
    | ok ending => exact ⟨ending, after, performOrReport_of_ok performed, ends⟩
    | error fault =>
      obtain ⟨entries, reported⟩ := performOrReport_of_error performed
      exact ⟨_, _, reported, fun _ => ends.of_rests ⟨rfl, rfl, rfl⟩⟩

theorem runCommand_spared {setting : Setting} {settings : Settings} {command : Command}
    (whole : (setting.stage settings.storage).Whole) (asked : Command.read setting.arguments = .ok command)
    (failed : ¬ (runCommand setting settings command).Exits 0) :
    Store.Intact (.file settings.storage setting.files)
      (.file settings.storage (runCommand setting settings command).files) ∧
    (command.Runs → ∀ call, .called call ∉ (runCommand setting settings command).events) := by
  cases configured : (setting.logging.configure settings.logLevel 0).1 with
  | error fault =>
    obtain ⟨_, events, files⟩ := runCommand_of_unknown command configured
    rw [events, files]
    exact ⟨.refl _, fun _ call => List.not_mem_nil⟩
  | ok _ =>
    have plain : Plain (setting.stage settings.storage) := ⟨⟨_, _, rfl⟩, fun _ _ => rfl⟩
    obtain ⟨ending, after, performed, spares⟩ := performOrReport_spared plain whole settings
      (Command.allTexts_of_read (Store.fits_ofString _) asked)
    obtain ⟨ended, events, files, _⟩ := runCommand_of_known configured performed
    have spared := spares fun zero => failed ⟨ending, ended, zero⟩
    rw [events, files]
    refine ⟨spared.intact.of_file, fun runs call member => ?_⟩
    have none : after.acts = [] := (spared.rests runs).acts
    have other := List.filterMap_eq_nil_iff.mp none _ member
    cases other

theorem exits_iff {aftermath : Aftermath} {status : Nat} :
    aftermath.Exits status ↔ aftermath.ending.toOption.map (·.status) = some status := by
  unfold Aftermath.Exits
  cases aftermath.ending with
  | error crash => simp [Except.toOption]
  | ok ending => simp [Except.toOption]

def Setting.Succeeds (setting : Setting) : Prop :=
  (∃ command, Command.read setting.arguments = .ok command) ∧ (call setting).Exits 0

def Setting.Whole (setting : Setting) : Prop :=
  ∀ settings, Settings.read setting.environment setting.files = .ok settings →
    (setting.stage settings.storage).Whole

/-- What a call leaves that was refused: the files it found, but for directories on the way to the storage, and
no trace of a run. -/
structure Setting.Spared (setting : Setting) (after : Aftermath) : Prop where
  /-- Without settings no place is known at which anything could be stored. -/
  unset : (∀ settings, Settings.read setting.environment setting.files ≠ .ok settings) →
    after.files = setting.files
  intact : ∀ settings, Settings.read setting.environment setting.files = .ok settings →
    Store.Intact (.file settings.storage setting.files) (.file settings.storage after.files)
  rests : ∀ openedByOther noWait, Command.read setting.arguments = .ok (.run openedByOther noWait) →
    ∀ call, .called call ∉ after.events

theorem spared_of_failed {setting : Setting} (whole : setting.Whole) (failed : ¬ setting.Succeeds) :
    setting.Spared (call setting) := by
  unfold Setting.Succeeds at failed
  unfold call at failed ⊢
  cases arguments : Command.read setting.arguments with
  | error stop =>
    have unplayed : ∀ openedByOther noWait,
        Command.read setting.arguments ≠ .ok (.run openedByOther noWait) := by
      rw [arguments]
      nofun
    cases stop <;>
      exact ⟨fun _ => rfl, fun _ _ => .refl _, fun _ _ runs => absurd runs (unplayed _ _)⟩
  | ok command =>
    rw [arguments] at failed
    cases read : Settings.read setting.environment setting.files with
    | error fault =>
      have unset : ∀ settings, Settings.read setting.environment setting.files ≠ .ok settings := by
        rw [read]
        nofun
      cases fault <;>
        exact ⟨fun _ => rfl, fun _ found => absurd found (unset _), fun _ _ _ _ => List.not_mem_nil⟩
    | ok settings =>
      rw [read] at failed
      obtain ⟨intact, rests⟩ := runCommand_spared (whole settings read) arguments fun exits =>
        failed ⟨⟨command, rfl⟩, exits⟩
      refine ⟨fun unset => absurd read (unset settings), ?_, ?_⟩
      · intro other found
        cases read.symm.trans found
        exact intact
      · intro openedByOther noWait runs
        cases arguments.symm.trans runs
        exact rests ⟨_, _, rfl⟩

end Terminal

/-! ## Either way -/

/-- Whatever is stored at first, as long as nothing that is to be kept in a file has halves: a call of the program that
does not succeed and a request that is refused leave it as it was, and have begun no run. A run that is begun comes to
its end, and is refused by neither. -/
theorem refusals_leave_intact :
    (∀ setting : Terminal.Setting, setting.Whole → ¬ setting.Succeeds → setting.Spared (Terminal.call setting)) ∧
    (∀ (app : Service.App) (request : Service.Request) (stage : Stage),
      stage.Whole → request.AllTexts stage.store.Fits → 400 ≤ (app.respond request stage).1.status →
        stage.Spared (Service.routing request.method (Service.pathOf request.target) = .found .run)
          (app.respond request stage).2) ∧
    ∀ (delay : Seconds) (workflow : Workflow) (stage : Stage),
      (Cursor.drain (Stage.performer delay) workflow.actions (workflow.actions.length + 1) .fresh .idle
        stage).2.answer = .finished := by
  refine ⟨?_, ?_, ?_⟩
  · exact fun setting whole failed => Terminal.spared_of_failed whole failed
  · exact fun app request stage whole given refused => Service.spared_of_refused whole given refused
  · intro delay workflow stage
    rw [Stage.performer, Stage.performerOf_eq]
    exact Means.answer_drain _ delay workflow.actions stage

/-- A file that is no text, when a run is asked for. -/
theorem refusals_leave_intact_undecodable :
    let storage : Path := Settings.storage {}
    let files : FileTree :=
      [("workflow_state", .directory), ("workflow_state/storage.json", .file ⟨#[0xff]⟩)]
    let setting : Terminal.Setting := { arguments := ["run"], files }
    let app : Service.App := ⟨[], some {}⟩
    let request : Service.Request :=
      { method := "POST", target := "/api/run", headers := [("content-type", "application/json")]
        body := "\x7b\x7d" }
    let stage : Stage := { store := .file storage files }
    (Terminal.call setting).Exits 1 ∧
      Store.Intact (.file storage files) (.file storage (Terminal.call setting).files) ∧
      (app.respond request stage).1.status = 500 ∧ Stage.Rests stage (app.respond request stage).2 := by
  intro storage files setting app request stage
  have exits : (Terminal.call setting).Exits 1 := Terminal.exits_iff.mpr (by decide +kernel)
  have failed : ¬ setting.Succeeds := by
    intro succeeds
    have zero := Terminal.exits_iff.mp succeeds.2
    have one := Terminal.exits_iff.mp exits
    cases one.symm.trans zero
  have broken : (app.respond request stage).1.status = 500 := by decide +kernel
  have routed : Service.routing request.method (Service.pathOf request.target) = .found .run := by
    decide +kernel
  -- nothing is read from such a file
  have items : stage.store.items = [] := by decide +kernel
  have saved : stage.store.saved Workflow.savedKey = .ok none := by rw [Store.saved, items]; rfl
  have whole : stage.Whole := by
    refine ⟨by rw [items]; exact Store.takes_nil _, fun workflow found => ?_, fun id drawn => ?_⟩
    · cases saved.symm.trans found
    · cases drawn
  have configured : Settings.read setting.environment setting.files = .ok {} := rfl
  have wholeToo : setting.Whole := by
    intro settings read
    cases configured.symm.trans read
    exact ⟨whole.items, whole.saved, whole.ids⟩
  have said : Service.bodyValue request = .ok (.obj []) := by rfl
  have given : request.AllTexts stage.store.Fits := by
    intro value found
    cases said.symm.trans found
    trivial
  obtain ⟨program, service, _⟩ := refusals_leave_intact
  have spared := service app request stage whole given (by rw [broken]; decide)
  refine ⟨exits, (program setting wholeToo failed).intact {} rfl, broken, spared.rests routed⟩

end Pushbutton
