import Pushbutton.Proofs.Run.Course
import Pushbutton.Proofs.Run.Refreshed
import Pushbutton.Proofs.Run.Reload
import Pushbutton.Proofs.Terminal.Refused

/-! What a run shows at its end, and what is shown when the program is next asked for the output. Each comes to the
text and the image by a way of its own: the run has them before it, or restores them from the store after a reload;
the other call restores them from the files that the run left. -/

set_option autoImplicit false

namespace Pushbutton

theorem Settings.read_eq_of_get? {environment : Table String String} {tree other : FileTree}
    (same : Table.get? other ".env" = Table.get? tree ".env") :
    Settings.read environment other = Settings.read environment tree := by
  have leads (tree : FileTree) : tree.find (.ofText ".env") = tree.walk [] [".env"] := by
    rfl
  have text : Settings.fileText other = Settings.fileText tree := by
    have name : FileTree.key ([] ++ [".env"]) = ".env" := rfl
    have solid : ".env" ≠ ".." := by decide
    simp only [Settings.fileText, leads, FileTree.walk, if_neg solid, name, same]
  rw [Settings.read, text, Settings.read]

namespace Stage

variable {stage : Stage}

theorem Ready.load_some (ready : stage.Ready) {key : Text} {workflow : Workflow}
    (saved : stage.store.saved key = .ok (some workflow)) :
    (Stage.load key).perform stage = (.ok (some workflow), stage.counted.noted) := by
  rw [Stage.load, Effect.perform_bind_of_ok (ready.getItem key)]
  unfold Store.saved at saved
  cases held : stage.store.items.get? key with
  | none => rw [held] at saved; cases saved
  | some text =>
    rw [held] at saved
    dsimp only at saved ⊢
    cases read : Workflow.ofRecordText text with
    | error fault => rw [read] at saved; cases saved
    | ok found =>
      rw [read] at saved
      cases found with
      | ok other => cases saved; rfl
      | error reason => cases saved

/-! ## Where the store is -/

/-- The stage is ready, and its store is the file at this path, apart from which nothing differs from the tree. -/
structure Located (path : Path) (location : List String) (tree : FileTree) (stage : Stage) : Prop where
  ready : stage.Ready
  store : stage.store = .file path stage.store.tree
  rewritten : FileTree.Rewritten path location tree stage.store.tree

section

open Effect

variable {path : Path} {location : List String} {tree : FileTree}

theorem Located.of_unmoved (located : Located path location tree stage) {after : Stage}
    (unmoved : Unmoved stage after) : Located path location tree after := by
  refine ⟨unmoved.ready located.ready, ?_, ?_⟩
  · rw [unmoved.store]
    exact located.store
  · rw [unmoved.store]
    exact located.rewritten

theorem located_setItem (key value : Text) : (setItem key value).Keeps (Located path location tree) := by
  intro stage located
  let items := stage.store.items.put key value
  by_cases takes : stage.store.Takes items
  · obtain ⟨text, same⟩ : ∃ text : String, fileText items = text := by
      rw [located.store] at takes
      exact Text.whole_iff_exists_ofString.mp (Store.takes_file.mp takes)
    obtain ⟨changed, saved, rewritten⟩ := located.rewritten.save text.toUTF8
    have replaced : stage.store.replace items = .ok (.file path changed) := by
      rw [located.store]
      exact Store.replace_file_eq_ok_iff.mpr ⟨text, same, changed, saved, rfl⟩
    have distinct : items.Distinct := located.ready.usable.distinct.put key value
    obtain ⟨holds, _⟩ := Store.holds_of_replace distinct replaced
    rw [located.ready.setItem replaced]
    exact ⟨(located.ready.called _).noted.holding holds, rfl, rewritten⟩
  · obtain ⟨fault, emptied, failed⟩ := perform_setItem_unfit located.ready.usable takes (located.ready.permits _ _)
    obtain ⟨changed, saved, rewritten⟩ := located.rewritten.save .empty
    have left : stage.store.abandoned = .file path changed := by
      rw [located.store, Store.abandoned, saved]
    rw [failed]
    refine ⟨⟨emptied.usable, located.ready.permits⟩, ?_, ?_⟩ <;> rw [left]
    · rfl
    · exact rewritten

theorem located_dispatch (action : Action) : action.dispatch.Keeps (Located path location tree) := by
  apply Action.keeps_dispatch_of_unframed
  · exact fun framed located => located.of_unmoved framed.toUnmoved
  · exact fun key _ => located_setItem key
  · intro _
    exact keeps_modify_setItem (fun _ located => located.of_unmoved ⟨rfl, rfl, rfl⟩) (located_setItem _ _)
  · intro _
    exact keeps_modify_setItem (fun _ located => located.of_unmoved ⟨rfl, rfl, rfl⟩) (located_setItem _ _)

theorem Located.run (located : Located path location tree stage) (delay : Seconds) (workflow : Workflow) :
    Located path location tree ((Stage.run delay workflow).perform stage).2 := by
  have keeps : (performer delay).Keeps workflow.actions (Located path location tree) := by
    refine ⟨fun action _ stage => located_dispatch action stage, fun _ located => ?_, fun _ _ located => ?_⟩
    · exact located.of_unmoved ⟨rfl, rfl, rfl⟩
    · exact located.of_unmoved ⟨rfl, rfl, rfl⟩
  exact keeps.run located

end

end Stage

namespace Terminal

open Stage Effect

/-! ## Commands -/

section

variable {setting : Setting} {settings : Settings} {command : Command}

theorem Setting.ready_stage {storage : Path} {key : Text} {workflow : Workflow}
    (saved : Store.saved (.file storage setting.files) key = .ok (some workflow)) :
    (setting.stage storage).Ready := ⟨(Store.open_of_saved saved).1, fun _ _ => rfl⟩

theorem performed_of_exits (exits : (runCommand setting settings command).Exits 0) :
    (setting.logging.configure settings.logLevel 0).1 = .ok () ∧
      ∃ ending after, (perform settings command).perform (setting.stage settings.storage) =
        (.ok ending, after) := by
  obtain ⟨ending, ended, success⟩ := exits
  cases configured : (setting.logging.configure settings.logLevel 0).1 with
  | error fault =>
    obtain ⟨crashed, _⟩ := runCommand_of_unknown command configured
    cases crashed.symm.trans ended
  | ok _ =>
    refine ⟨rfl, ?_⟩
    cases performed : (perform settings command).perform (setting.stage settings.storage) with
    | mk result after =>
      cases result with
      | ok ending => exact ⟨ending, after, rfl⟩
      | error fault =>
        obtain ⟨_, reported⟩ := performOrReport_of_error performed
        obtain ⟨failed, _⟩ := runCommand_of_known configured reported
        cases failed.symm.trans ended
        cases success

end

/-! ## Runs -/

/-- The output is the one that the store keeps, and the button is fresh. -/
def begun (workflow : Workflow) (stage : Stage) : Stage :=
  { stage.counted.noted.counted.noted with
    output := stage.store.output
    backed := true
    control := some (freshControl workflow) }

def seen (workflow : Workflow) (ended : Stage) : Stage :=
  if ended.host.reloaded then begun workflow ended else ended

section

variable {stage : Stage} {settings : Settings} {workflow : Workflow}

theorem perform_begin (ready : stage.Ready) {α : Type} (next : Unit → Effect α) :
    (restore >>= fun _ =>
      (modify fun stage => { stage with control := some (freshControl workflow) } : Effect Unit) >>= next).perform
        stage = (next ()).perform (begun workflow stage) := by
  have restores : restore.perform stage = (.ok (), _) :=
    Reliable.restore ⟨ready.usable, fun _ _ _ => ready.permits _ _⟩
  rw [perform_bind_of_ok restores, perform_bind_of_ok (perform_modify _ _)]
  rfl

/-- A pause that is too long is found when the run is about to begin. -/
theorem pause_of_perform (ready : stage.Ready) {α : Type} {next : Unit → Effect α} {value : α} {after : Stage}
    (performed : (runWorkflow settings workflow >>= next).perform stage = (.ok value, after)) :
    ∃ pause, settings.pause = .ok pause := by
  rw [perform_bind, runWorkflow, perform_begin ready, perform_bind, perform_ofExcept] at performed
  cases paused : settings.pause with
  | ok pause => exact ⟨pause, rfl⟩
  | error fault =>
    rw [paused] at performed
    cases performed

theorem perform_runWorkflow (ready : stage.Ready) {pause : Seconds} (paused : settings.pause = .ok pause)
    {report : Report} {ended : Stage}
    (ran : (Stage.run pause workflow).perform (begun workflow stage) = (.ok report, ended))
    (still : ended.Ready) :
    ∃ after, (runWorkflow settings workflow).perform stage = (.ok (), after) ∧ after.store = ended.store ∧
      after.events = ended.events ++
        (((seen workflow ended).control.getD {}).render (seen workflow ended).output).map .printed := by
  have shows (last : Stage) : (do
      let stage ← get
      printLines ((stage.control.getD {}).render stage.output) : Effect Unit).perform last =
        (.ok (), { last with
          events := last.events ++ ((last.control.getD {}).render last.output).map .printed }) := by
    rw [perform_bind_of_ok (perform_get _), perform_printLines]
  have pauses : (Effect.ofExcept settings.pause).perform (begun workflow stage) =
      (.ok pause, begun workflow stage) := by
    rw [paused]
    rfl
  rw [runWorkflow, perform_begin ready, perform_bind_of_ok pauses, perform_bind_of_ok ran,
    perform_bind_of_ok (perform_get _)]
  unfold seen
  dsimp only
  cases reloaded : ended.host.reloaded with
  | false =>
    simp only [Bool.false_eq_true, if_false]
    exact ⟨_, shows ended, rfl, rfl⟩
  | true =>
    simp only [if_true]
    rw [perform_begin still]
    exact ⟨_, shows _, rfl, rfl⟩

end

/-! ## A run, and then its output -/

section

variable {setting later : Setting} {settings : Settings} {openedByOther noWait : Bool} {workflow : Workflow}

def Setting.hosted (setting : Setting) (storage : Path) (openedByOther noWait : Bool) : Stage :=
  { (setting.stage storage).counted.noted with
    host := .console setting.input (!noWait) openedByOther }

def Setting.begun (setting : Setting) (storage : Path) (openedByOther noWait : Bool) (workflow : Workflow) :
    Stage := Terminal.begun workflow (setting.hosted storage openedByOther noWait)

theorem Setting.ready_hosted {storage : Path} {key : Text}
    (saved : Store.saved (.file storage setting.files) key = .ok (some workflow)) :
    (setting.hosted storage openedByOther noWait).Ready := (Setting.ready_stage saved).of_eq rfl rfl

theorem Setting.holds_begun {storage : Path} {key : Text} {saves : Workflow}
    (saved : Store.saved (.file storage setting.files) key = .ok (some saves)) (openedByOther noWait : Bool)
    (workflow : Workflow) :
    let start := setting.begun storage openedByOther noWait workflow
    (∃ location, Located storage location setting.files start) ∧ Refreshed false start ∧ Mirrored start := by
  obtain ⟨usable, location, opened⟩ := Store.open_of_saved saved
  have ready : (setting.begun storage openedByOther noWait workflow).Ready := ⟨usable, fun _ _ => rfl⟩
  have reliable : (setting.begun storage openedByOther noWait workflow).Reliable :=
    ⟨usable, fun _ _ _ => rfl⟩
  exact ⟨⟨location, ready, rfl, opened.ends, opened, fun _ _ => rfl⟩, ⟨fun _ _ _ => rfl, rfl⟩,
    ⟨reliable, rfl, rfl, rfl⟩⟩

theorem perform_run
    (saved : Store.saved (.file settings.storage setting.files) Workflow.savedKey = .ok (some workflow)) :
    (perform settings (.run openedByOther noWait)).perform (setting.stage settings.storage) =
      (runWorkflow settings workflow >>= fun _ => done).perform
        (setting.hosted settings.storage openedByOther noWait) := by
  rw [perform, perform_bind_of_ok ((Setting.ready_stage saved).load_some saved)]
  dsimp only
  rw [perform_bind_of_ok (perform_modify _ _)]
  rfl

theorem Store.Takes.output {store : Store} (takes : store.Takes store.items) :
    store.Fits store.output.text ∧ store.Fits store.output.imageUrl :=
  ⟨Store.fits_getD takes.get? (Store.fits_ofString store ""), Store.fits_getD takes.get? (Store.fits_ofString store "")⟩

theorem writable_eq_ok_iff {output : Output} :
    writable output = .ok () ↔ output.text.Whole ∧ output.response.Whole ∧ output.imageUrl.Whole := by
  have each (text : Text) : (∃ octets, text.encode = .ok octets) ↔ text.Whole := by
    rw [Text.whole_iff_exists_ofString]
    exact ⟨fun ⟨_, same⟩ => (Text.encode_eq_ok_iff.mp same).imp fun _ => And.left,
      fun ⟨string, same⟩ => ⟨string.toUTF8, same ▸ Text.encode_ofString string⟩⟩
  simp only [writable, List.forM_eq_forM, List.forM_cons, List.forM_nil, ← each]
  cases output.text.encode <;> cases output.response.encode <;> cases output.imageUrl.encode <;>
    simp [bind, Except.bind, pure, Except.pure]

theorem runCommand_output (levelled : (setting.logging.configure settings.logLevel 0).1 = .ok ())
    (usable : (Store.file settings.storage setting.files).Usable) :
    let kept := Store.output (.file settings.storage setting.files)
    ((runCommand setting settings .output).Exits 0 ↔ kept.text.Whole ∧ kept.imageUrl.Whole) ∧
      (kept.text.Whole ∧ kept.imageUrl.Whole →
        (runCommand setting settings .output).events = [.printed kept.toJson.renderIndented]) := by
  intro kept
  have restores : restore.perform (setting.stage settings.storage) = (.ok (), _) :=
    Reliable.restore ⟨usable, fun _ _ _ => rfl⟩
  have writes (stage : Stage) :
      (Effect.ofExcept (writable stage.output)).perform stage = (writable stage.output, stage) :=
    perform_ofExcept ..
  have written : writable kept = .ok () ↔ kept.text.Whole ∧ kept.imageUrl.Whole := by
    have answer : kept.response.Whole := Text.whole_ofString _
    rw [writable_eq_ok_iff, and_iff_right answer]
  cases told : writable kept with
  | ok _ =>
    have whole := written.mp told
    have performed : ∃ after, (perform settings .output).perform (setting.stage settings.storage) = (.ok {}, after) ∧
        after.events = [.printed kept.toJson.renderIndented] := by
      rw [perform, perform_bind_of_ok restores, perform_bind_of_ok (perform_get _),
        perform_bind_of_ok ((writes _).trans (congrArg (·, _) told)), perform_bind_of_ok (perform_printLines _ _)]
      exact ⟨_, rfl, rfl⟩
    obtain ⟨after, ends, printed⟩ := performed
    obtain ⟨success, events, _⟩ := runCommand_of_known levelled (performOrReport_of_ok ends)
    exact ⟨⟨fun _ => whole, fun _ => ⟨_, success, rfl⟩⟩, fun _ => events.trans printed⟩
  | error fault =>
    have halved : ¬ (kept.text.Whole ∧ kept.imageUrl.Whole) := by
      intro whole
      cases told.symm.trans (written.mpr whole)
    have performed : ∃ after, (perform settings .output).perform (setting.stage settings.storage) =
        (.error fault, after) := by
      rw [perform, perform_bind_of_ok restores, perform_bind_of_ok (perform_get _),
        perform_bind_of_error ((writes _).trans (congrArg (·, _) told))]
      exact ⟨_, rfl⟩
    obtain ⟨after, fails⟩ := performed
    obtain ⟨_, reported⟩ := performOrReport_of_error fails
    obtain ⟨failed, _⟩ := runCommand_of_known levelled reported
    refine ⟨⟨fun exits => ?_, fun whole => absurd whole halved⟩, fun whole => absurd whole halved⟩
    obtain ⟨ending, ended, success⟩ := exits
    cases failed.symm.trans ended
    cases success

/-- Nothing but the level and the pause keeps a run from its success. It has then come to its end on a store that
can be used again, and shows what is to be seen. -/
theorem runCommand_run
    (saved : Store.saved (.file settings.storage setting.files) Workflow.savedKey = .ok (some workflow))
    (levelled : (setting.logging.configure settings.logLevel 0).1 = .ok ()) {pause : Seconds}
    (paused : settings.pause = .ok pause) :
    let begun := setting.begun settings.storage openedByOther noWait workflow
    let called := runCommand setting settings (.run openedByOther noWait)
    called.Exits 0 ∧ ∃ report ended, (Stage.run pause workflow).perform begun = (.ok report, ended) ∧
      (∃ location, Located settings.storage location setting.files ended) ∧ called.files = ended.store.tree ∧
      called.events = ended.events ++
        (((seen workflow ended).control.getD {}).render (seen workflow ended).output).map .printed := by
  obtain ⟨_, ended, -, ran, -⟩ :=
    run_attempted pause workflow (setting.begun settings.storage openedByOther noWait workflow)
  obtain ⟨⟨location, start⟩, -⟩ := Setting.holds_begun saved openedByOther noWait workflow
  have still := start.run pause workflow
  rw [ran] at still
  obtain ⟨after, ends, store, events⟩ := perform_runWorkflow (Setting.ready_hosted saved) paused ran still.ready
  have whole : (perform settings (.run openedByOther noWait)).perform (setting.stage settings.storage) =
      (.ok {}, after) := by
    rw [perform_run saved, perform_bind_of_ok ends]
    rfl
  obtain ⟨success, happened, left, _⟩ := runCommand_of_known levelled (performOrReport_of_ok whole)
  refine ⟨⟨_, success, rfl⟩, _, ended, ran, ⟨location, still⟩, ?_, ?_⟩
  · rw [left, store]
  · rw [happened, events]

theorem exists_pause_of_exits
    (saved : Store.saved (.file settings.storage setting.files) Workflow.savedKey = .ok (some workflow))
    (succeeds : (runCommand setting settings (.run openedByOther noWait)).Exits 0) :
    (setting.logging.configure settings.logLevel 0).1 = .ok () ∧ ∃ pause, settings.pause = .ok pause := by
  obtain ⟨levelled, _, _, performed⟩ := performed_of_exits succeeds
  rw [perform_run saved] at performed
  exact ⟨levelled, pause_of_perform (Setting.ready_hosted saved) performed⟩

/-- A run changes the settings for what is called after it only if they are in the file that it writes. -/
theorem read_settings_after_run (asked : Command.read setting.arguments = .ok (.run openedByOther noWait))
    (configured : Settings.read setting.environment setting.files = .ok settings)
    (saved : Store.saved (.file settings.storage setting.files) Workflow.savedKey = .ok (some workflow))
    (succeeds : (call setting).Exits 0)
    (apart : ∀ location, (setting.files.find settings.storage).location? = some location →
      FileTree.key location ≠ ".env") :
    Settings.read setting.environment (call setting).files = .ok settings := by
  rw [call_eq asked configured] at succeeds ⊢
  obtain ⟨levelled, _, paused⟩ := exists_pause_of_exits saved succeeds
  obtain ⟨_, _, ended, _, ⟨location, still⟩, left, _⟩ := runCommand_run saved levelled paused
  rw [left, ← configured]
  exact Settings.read_eq_of_get? (still.rewritten.beside ".env" (apart location still.rewritten.ends).symm)

theorem render_freshControl (workflow : Workflow) (store : Store) :
    (freshControl workflow).render store.output =
      ["[" ++ workflow.displayLabel ++ "]"] ++ (if store.output.text = "" then [] else [store.output.text]) ++
        (if store.output.imageUrl = "" then [] else ["image: " ++ store.output.imageUrl]) := by
  simp [Control.render, Control.sortedStyle, freshControl, Store.output]

theorem output_seen {begun ended : Stage} {pause : Seconds} {attempts : List Attempt} (mirrored : begun.Mirrored)
    (observed : ((observing.performer pause).run workflow (begun, [])).2.2 = (ended, attempts))
    (agrees : ended.host.reloaded = true ∨
      (∀ action ∈ workflow.actions, ¬ action.Writes Output.textKey ∧ ¬ action.Writes Output.imageKey) ∧
        ∀ attempt ∈ attempts, attempt.Spares) :
    { text := (seen workflow ended).output.text, imageUrl := (seen workflow ended).output.imageUrl, response := "",
      disabled := false : Output } = ended.store.output := by
  unfold seen
  split
  · rfl
  · next still =>
    obtain ⟨apart, spares⟩ := agrees.resolve_left still
    have start : (∀ attempt ∈ (begun, ([] : List Attempt)).2, attempt.Spares) → begun.Mirrored := fun _ => mirrored
    have shown := (keeps_mirrored apart pause).run start
    rw [observed] at shown
    have shown : ended.Mirrored := shown spares
    rw [shown.text, shown.imageUrl]
    rfl

/-- A run that succeeds shows at its end what it leaves. If an action reloaded the page, this is the button as it was
at the start, with the label alone, and what the store keeps by then. Otherwise it is the button and the output as
they have become. The output can be asked for next, under the same settings, unless what is kept of it has halves. The
text and the image are then those that were shown, the last answer is gone, and the button is not disabled; this is so
after any run that reloaded the page, and after any other in which no action stored a text under the keys of the output
and none emptied the file of the store. -/
theorem call_run_then_output (setting later : Setting)
    (asked : Command.read setting.arguments = .ok (.run openedByOther noWait))
    (configured : Settings.read setting.environment setting.files = .ok settings)
    (saved : Store.saved (.file settings.storage setting.files) Workflow.savedKey = .ok (some workflow))
    (succeeds : (call setting).Exits 0) (next : Command.read later.arguments = .ok .output)
    (files : later.files = (call setting).files)
    (again : Settings.read later.environment later.files = .ok settings) :
    let begun := setting.begun settings.storage openedByOther noWait workflow
    let kept := Store.output (.file settings.storage later.files)
    ∃ pause report ended attempts control shown,
      settings.pause = .ok pause ∧
      (Stage.run pause workflow).perform begun = (.ok report, ended) ∧
      ((observing.performer pause).run workflow (begun, [])).2.2 = (ended, attempts) ∧
      Store.file settings.storage later.files = ended.store ∧
      report.steps.map (fun step => (step.id, step.kind)) =
        (workflow.actions.take report.steps.length).map (fun action => (action.id, action.kind)) ∧
      (call setting).events = ended.events ++ (Control.render control shown).map .printed ∧
      (report.Refreshes ↔ ∃ action ∈ workflow.actions, action.kind = .refreshPage) ∧
      (report.Refreshes → shown = kept ∧ control.render shown =
        ["[" ++ workflow.displayLabel ++ "]"] ++ (if kept.text = "" then [] else [kept.text]) ++
          (if kept.imageUrl = "" then [] else ["image: " ++ kept.imageUrl])) ∧
      (¬ report.Refreshes → control = ended.control.getD {} ∧ shown = ended.output ∧
        report.steps.length = workflow.actions.length) ∧
      ((call later).Exits 0 ↔ kept.text.Whole ∧ kept.imageUrl.Whole) ∧
      ((report.Refreshes ∨ (∀ action ∈ workflow.actions.take report.steps.length,
          ¬ action.Writes Output.textKey ∧ ¬ action.Writes Output.imageKey) ∧ ∀ attempt ∈ attempts, attempt.Spares) →
        let told : Output := { text := shown.text, imageUrl := shown.imageUrl, response := "", disabled := false }
        told = kept ∧
          (kept.text.Whole ∧ kept.imageUrl.Whole → (call later).events = [.printed told.toJson.renderIndented])) := by
  intro begun
  rw [call_eq asked configured] at succeeds files ⊢
  rw [call_eq next again]
  obtain ⟨levelled, pause, paused⟩ := exists_pause_of_exits saved succeeds
  obtain ⟨-, report, ended, ran, ⟨location, still⟩, left, events⟩ := runCommand_run saved levelled paused
  obtain ⟨-, fresh, mirrored⟩ := Setting.holds_begun saved openedByOther noWait workflow
  obtain ⟨_, _, same, steps, reloads, asks, all⟩ := run_refreshed fresh pause workflow
  cases ran.symm.trans same
  obtain ⟨attempts, _, observed, again, -⟩ := run_attempted pause workflow begun
  cases (congrArg Prod.snd (ran.symm.trans again) : ended = _)
  -- the later call finds the store that the run left
  have found : Store.file settings.storage later.files = ended.store := by
    rw [files, left, ← still.store]
  obtain ⟨exits, told⟩ := runCommand_output
    (configure_known levelled later.logging) (found ▸ still.ready.usable)
  dsimp only
  rw [found] at exits told ⊢
  refine ⟨pause, report, ended, attempts, _, _, paused, ran, congrArg (·.2.2) observed, rfl, steps, events, asks,
    ?_, ?_, exits, ?_⟩
  · intro refreshes
    rw [seen, if_pos (reloads.mpr refreshes)]
    exact ⟨rfl, render_freshControl workflow ended.store⟩
  · intro still
    rw [seen, if_neg fun reloaded => still (reloads.mp reloaded)]
    exact ⟨rfl, rfl, all still⟩
  · intro agrees
    have same := output_seen mirrored (congrArg (·.2.2) observed) (by
      by_cases refreshes : report.Refreshes
      · exact .inl (reloads.mpr refreshes)
      · rw [all refreshes, List.take_length] at agrees
        exact .inr (agrees.resolve_left refreshes))
    rw [same]
    exact ⟨rfl, told⟩

end

/-- The button is disabled and an answer is shown, and then the page is reloaded. -/
def fading : Workflow where
  label := "Go"
  actions := [{ id := "a", kind := .disableButton }, { id := "b", kind := .promptAndShow },
    { id := "c", kind := .refreshPage }]

def fadingText : String := (fileText [(Workflow.savedKey, fading.recordText)]).string?.getD ""

def fadingFiles : FileTree := [("workflow_state", .directory), ("workflow_state/storage.json", .file fadingText.toUTF8)]

def fadingRun : Setting := { arguments := ["run"], input := [.line "x"], files := fadingFiles }

theorem fileText_fading : fileText [(Workflow.savedKey, fading.recordText)] = fadingText := by
  have whole : (fileText [(Workflow.savedKey, fading.recordText)]).Whole := by decide +kernel
  obtain ⟨string, same⟩ := Text.whole_iff_exists_ofString.mp whole
  rw [fadingText, same, Text.string?_ofString]
  rfl

theorem contents_fading : Store.contents (.file (Settings.storage {}) fadingRun.files) =
    .ok ⟨[(Workflow.savedKey, fading.recordText)], false⟩ := by
  have distinct : Table.Distinct [(Workflow.savedKey, fading.recordText)] := List.nodup_singleton _
  exact Store.contents_of_ofText rfl (fileText_fading ▸ Contents.ofText_fileText distinct)

theorem saved_fading :
    Store.saved (.file (Settings.storage {}) fadingRun.files) Workflow.savedKey = .ok (some fading) := by
  have wellFormed : fading.WellFormed := ⟨by decide, by decide⟩
  apply Store.saved_of_recordText _ wellFormed
  rw [← Store.contents_items contents_fading]
  rfl

theorem fluent_fading : (fadingRun.begun (Settings.storage {}) false false fading).Fluent := by
  obtain ⟨⟨_, located⟩, -⟩ := Setting.holds_begun saved_fading false false fading
  have items : Store.items (.file (Settings.storage {}) fadingRun.files) = [(Workflow.savedKey, fading.recordText)] :=
    (Store.contents_items contents_fading).symm
  have takes : Store.Takes (.file (Settings.storage {}) fadingRun.files)
      (Store.items (.file (Settings.storage {}) fadingRun.files)) := by
    rw [items, Store.takes_file, fileText_fading]
    exact Text.whole_ofString _
  exact ⟨located.ready, takes, List.forall_mem_singleton.mpr (Store.fits_ofString _ "x")⟩

theorem fadingRun_exits : (call fadingRun).Exits 0 := by
  have asked : Command.read fadingRun.arguments = .ok (.run false false) := rfl
  have configured : Settings.read fadingRun.environment fadingRun.files = .ok {} := rfl
  have levelled : (fadingRun.logging.configure (Settings.logLevel {}) 0).1 = .ok () := rfl
  obtain ⟨pause, paused⟩ : ∃ pause, Settings.pause {} = .ok pause := ⟨_, rfl⟩
  rw [call_eq asked configured]
  exact (runCommand_run saved_fading levelled paused).1

def asking (files : FileTree) : Setting := { arguments := ["output"], files }

theorem files_asking (files : FileTree) : (asking files).files = files := rfl

theorem call_run_then_output_fading :
    let later := asking (call fadingRun).files
    (call fadingRun).Exits 0 ∧ (call later).Exits 0 ∧ ∃ (before : List Event) (shown : Output),
      (call fadingRun).events = before ++ ([("[Go]" : Text)] ++ (if shown.text = "" then [] else [shown.text]) ++
        (if shown.imageUrl = "" then [] else ["image: " ++ shown.imageUrl])).map .printed ∧
      (call later).events =
        [.printed (Output.toJson { text := shown.text, imageUrl := shown.imageUrl }).renderIndented] := by
  intro later
  have asked : Command.read fadingRun.arguments = .ok (.run false false) := rfl
  have configured : Settings.read fadingRun.environment fadingRun.files = .ok {} := rfl
  have next : Command.read later.arguments = .ok .output := rfl
  have files : later.files = (call fadingRun).files := files_asking _
  have again : Settings.read later.environment later.files = .ok {} := by
    rw [files]
    apply read_settings_after_run asked configured saved_fading fadingRun_exits
    intro location leads
    cases leads
    decide
  obtain ⟨pause, report, ended, _, control, shown, _, ran, _, store, _, events, asks, reloaded, _, whole, told⟩ :=
    call_run_then_output fadingRun later asked configured saved_fading fadingRun_exits next files again
  have refreshes : report.Refreshes := asks.mpr ⟨_, List.mem_of_getLast? rfl, rfl⟩
  obtain ⟨rfl, lines⟩ := reloaded refreshes
  have label : fading.displayLabel = "Go" := rfl
  rw [lines, label] at events
  have given : ∀ action ∈ fading.actions, action.params.AllTexts
      (fadingRun.begun (Settings.storage {}) false false fading).store.Fits := by
    simp [fading, Params.allTexts_empty]
  obtain ⟨_, _, same, -, fluent⟩ := fluent_fading.run pause given
  cases ran.symm.trans same
  have kept := Store.Takes.output fluent.items
  rw [← store] at kept
  have exits := whole.mpr ⟨kept.1 rfl, kept.2 rfl⟩
  exact ⟨fadingRun_exits, exits, ended.events, _, events, (told (.inl refreshes)).2 (whole.mp exits)⟩

/-! The same workflow is run beside a half. The text is shown, and the file is emptied instead of being written. -/

def showingFiles : FileTree :=
  [("workflow_state", .directory), ("workflow_state/storage.json", .file showingText.toUTF8)]

def showingRun : Setting := { arguments := ["run"], files := showingFiles }

theorem call_run_then_output_unless_halved :
    let later := asking (call showingRun).files
    Store.saved (.file (Settings.storage {}) showingRun.files) Workflow.savedKey = .ok (some showing) ∧
      (∀ action ∈ showing.actions, action.kind = .showText) ∧
      (call showingRun).Exits 0 ∧ (call showingRun).events.getLast? = some (.printed "new") ∧
      (call later).Exits 0 ∧ (call later).events = [.printed (Output.toJson {}).renderIndented] := by
  intro later
  refine ⟨Store.saved_showing rfl, by decide, ?_⟩
  rw [exits_iff, exits_iff]
  decide +kernel

end Terminal

end Pushbutton
