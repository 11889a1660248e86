import Pushbutton.Proofs.Run.Invariant
import Pushbutton.Proofs.Service.Machine
import Pushbutton.Proofs.Service.Play
import Pushbutton.Proofs.Workflow.Edit
import Pushbutton.Proofs.Workflow.FreshId
import Pushbutton.Proofs.Workflow.SaveLoad

/-! The service refines the machine on one document: whatever is asked of it and in whatever order, what is
loaded afterwards is what the machine holds. -/

set_option autoImplicit false

namespace Pushbutton.Service

def documentOf (stage : Stage) : Document :=
  ⟨((Stage.load Workflow.savedKey).perform stage).1, stage.ids⟩

def Untouched (document : Document) : Prop :=
  ∀ workflow, document.saved = .ok (some workflow) →
    ∀ action ∈ workflow.actions, ¬ action.Writes Workflow.savedKey

structure Sound (stage : Stage) : Prop where
  ready : stage.Ready
  named : stage.ids.Named

theorem Sound.documentOf_eq {stage : Stage} (sound : Sound stage) :
    documentOf stage = ⟨stage.store.saved Workflow.savedKey, stage.ids⟩ := by
  obtain ⟨after, loads, _⟩ := sound.ready.load Workflow.savedKey
  rw [documentOf, loads]

theorem Sound.wellFormed {stage : Stage} (sound : Sound stage) {workflow : Workflow}
    (saved : (documentOf stage).saved = .ok (some workflow)) : workflow.WellFormed := by
  rw [sound.documentOf_eq] at saved
  exact Store.wellFormed_of_saved saved

theorem Sound.wellFormed_getD {stage : Stage} (sound : Sound stage) {saved : Option Workflow}
    (found : (documentOf stage).saved = .ok saved) : (saved.getD {}).WellFormed := by
  cases saved with
  | none => exact Workflow.wellFormed_empty
  | some workflow => exact sound.wellFormed found

/-- The file cannot hold the workflow beside its other items, and is emptied when that is tried. -/
def Loses (written : Option Workflow) (stage : Stage) : Prop :=
  ∃ workflow ∈ written, ¬ stage.store.Takes (stage.store.items.put Workflow.savedKey workflow.recordText)

/-- The effect, whatever it comes to, leaves a sound stage with this document, which is emptied by a loss. -/
structure Leads {α : Type} (lost : Prop) (effect : Effect α) (stage : Stage) (document : Document) : Prop where
  sound : Sound (effect.perform stage).2
  kept : ¬ lost → documentOf (effect.perform stage).2 = document
  emptied : lost → documentOf (effect.perform stage).2 = document.emptied

section

variable {α β : Type} {stage : Stage} {lost : Prop}

theorem leads_still {effect : Effect α} {document : Document} (sound : Sound stage) (unlost : ¬ lost)
    (same : documentOf stage = document) (still : (effect.perform stage).2 = stage) :
    Leads lost effect stage document :=
  ⟨still.symm ▸ sound, fun _ => (congrArg documentOf still).trans same, fun held => absurd held unlost⟩

theorem leads_get_bind {next : Stage → Effect β} {document : Document}
    (leads : Leads lost (next stage) stage document) : Leads lost (get >>= next) stage document :=
  ⟨leads.sound, leads.kept, leads.emptied⟩

theorem leads_modify_bind {change : Stage → Stage} {next : Unit → Effect β} {document : Document}
    (leads : Leads lost (next ()) (change stage) document) : Leads lost (modify change >>= next) stage document :=
  ⟨leads.sound, leads.kept, leads.emptied⟩

/-- What is loaded depends on the text under the one key and on nothing else. -/
theorem Sound.of_steady {after : Stage} (sound : Sound stage)
    (steady : Stage.Steady (· = Workflow.savedKey) stage after) :
    Sound after ∧ documentOf after = documentOf stage := by
  have still : Sound after := ⟨steady.ready, steady.ids ▸ sound.named⟩
  refine ⟨still, ?_⟩
  rw [still.documentOf_eq, sound.documentOf_eq, Store.saved, steady.held _ rfl, steady.ids, Store.saved]

theorem leads_of_keeps {effect : Effect α} (sound : Sound stage) (unlost : ¬ lost)
    {document : Document} (same : documentOf stage = document)
    (keeps : effect.Keeps (Stage.Steady (· = Workflow.savedKey) stage)) : Leads lost effect stage document := by
  obtain ⟨after, still⟩ := sound.of_steady (keeps stage sound.ready.steady)
  exact ⟨after, fun _ => still.trans same, fun held => absurd held unlost⟩

theorem leads_load_bind {next : Option Workflow → Effect β} {document : Document} (sound : Sound stage)
    (failed : ∀ fault, (documentOf stage).saved = .error fault → document = documentOf stage ∧ ¬ lost)
    (went : ∀ saved after, (documentOf stage).saved = .ok saved → Sound after → after.store = stage.store →
      documentOf after = documentOf stage → Leads lost (next saved) after document) :
    Leads lost (Stage.load Workflow.savedKey >>= next) stage document := by
  obtain ⟨after, loads, unmoved⟩ := sound.ready.load Workflow.savedKey
  have still : Sound after := ⟨unmoved.ready sound.ready, unmoved.ids ▸ sound.named⟩
  have same : documentOf after = documentOf stage := by
    rw [still.documentOf_eq, sound.documentOf_eq, unmoved.store, unmoved.ids]
  cases saved : stage.store.saved Workflow.savedKey with
  | error fault =>
    -- the record cannot be read: what would follow does not happen
    have performed := Effect.perform_bind_of_error (saved ▸ loads) next
    obtain ⟨rfl, unlost⟩ := failed fault (by rw [sound.documentOf_eq, saved])
    refine ⟨?_, fun _ => ?_, fun held => absurd held unlost⟩
    · rw [performed]
      exact still
    · rw [performed, same]
  | ok found =>
    have performed := Effect.perform_bind_of_ok (saved ▸ loads) next
    have leads := went found after (by rw [sound.documentOf_eq, saved]) still unmoved.store same
    constructor
    · rw [performed]
      exact leads.sound
    · rw [performed]
      exact leads.kept
    · rw [performed]
      exact leads.emptied

theorem loses_some {workflow : Workflow} : Loses (some workflow) stage ↔
    ¬ stage.store.Takes (stage.store.items.put Workflow.savedKey workflow.recordText) :=
  ⟨fun ⟨_, same, unfit⟩ => Option.some.inj same ▸ unfit, fun unfit => ⟨workflow, rfl, unfit⟩⟩

theorem not_loses_none : ¬ Loses none stage := nofun

theorem not_loses {command : Command} (edits : ∀ workflow, command.change workflow = none) (document : Document) :
    ¬ Loses (document.edited command.change) stage := by
  rintro ⟨_, written, -⟩
  obtain ⟨_, -, changed⟩ := Option.mem_bind_iff.mp written
  rw [edits] at changed
  cases changed

theorem leads_save (sound : Sound stage) {workflow : Workflow} (wellFormed : workflow.WellFormed)
    (value : β) :
    Leads (Loses (some workflow) stage) (Stage.save Workflow.savedKey workflow >>= fun _ => pure value) stage
      { documentOf stage with saved := .ok (some workflow) } := by
  by_cases takes : stage.store.Takes (stage.store.items.put Workflow.savedKey workflow.recordText)
  · obtain ⟨after, saves, wrote, _⟩ := sound.ready.save takes
    have still : Sound after := ⟨wrote.ready sound.ready, wrote.ids ▸ sound.named⟩
    have held : after.store.items.get? Workflow.savedKey = some workflow.recordText := by
      rw [wrote.get?, if_pos rfl]
    have performed := Effect.perform_bind_of_ok saves fun _ => (pure value : Effect β)
    refine ⟨?_, fun _ => ?_, fun loses => absurd takes (loses_some.mp loses)⟩
    · rw [performed]
      exact still
    · rw [performed, sound.documentOf_eq]
      exact still.documentOf_eq.trans (by rw [Store.saved_of_recordText held wellFormed, wrote.ids])
  · obtain ⟨fault, emptied, failed⟩ := Stage.perform_setItem_unfit sound.ready.usable takes (sound.ready.permits _ _)
    have saves : (Stage.save Workflow.savedKey workflow).perform stage = _ := Effect.perform_bind_of_error failed _
    have performed := Effect.perform_bind_of_error saves fun _ => (pure value : Effect β)
    have still : Sound ((Stage.setItem Workflow.savedKey workflow.recordText).perform stage).2 := by
      rw [failed]
      exact ⟨⟨emptied.usable, sound.ready.permits⟩, sound.named⟩
    rw [failed] at still
    refine ⟨?_, fun kept => absurd (loses_some.mpr takes) kept, fun _ => ?_⟩
    · rw [performed]
      exact still
    · rw [performed, sound.documentOf_eq]
      refine still.documentOf_eq.trans ?_
      rw [Store.saved, emptied.items]
      rfl

theorem leads_edit {next : Option Workflow → Effect β} (sound : Sound stage)
    (change : Workflow → Option Workflow)
    (went : ∀ saved after, Sound after → (saved.getD {}).WellFormed →
      (documentOf after).saved = .ok saved →
      Leads (Loses (change (saved.getD {})) after) (next saved) after
        { documentOf after with saved := .ok ((change (saved.getD {})).or saved) }) :
    Leads (Loses ((documentOf stage).edited change) stage) (Stage.load Workflow.savedKey >>= next) stage
      ((documentOf stage).edit change) := by
  apply leads_load_bind sound
  · intro fault found
    cases held : documentOf stage with
    | mk saved ids =>
      rw [held] at found
      cases found
      exact ⟨rfl, not_loses_none⟩
  · intro saved after found still store same
    have leads := went saved after still (sound.wellFormed_getD found) (by rw [same, found])
    rw [same, Loses, store] at leads
    rw [Document.edit, Document.edited, found]
    exact leads

/-! ## Routes -/

theorem leads_relabel (sound : Sound stage) (label : Text) :
    Leads (Loses (Command.written (.relabel label) (documentOf stage)) stage) (relabel label) stage
      (Command.next (.relabel label) (documentOf stage)) := by
  simp only [relabel, Stage.relabel, Stage.loadOrEmpty, bind_assoc, pure_bind]
  refine leads_edit sound (Command.change (.relabel label)) ?_
  intro saved after still wellFormed _
  exact leads_save still (wellFormed.relabel label) _

theorem leads_replaceWorkflow (sound : Sound stage) (record : Json) :
    Leads (Loses ((Command.ofRecord record).written (documentOf stage)) stage) (replaceWorkflow record) stage
      ((Command.ofRecord record).next (documentOf stage)) := by
  unfold replaceWorkflow Command.ofRecord
  cases read : Workflow.ofJson record with
  | error fault => exact leads_still sound (not_loses (fun _ => rfl) _) rfl rfl
  | ok workflow => exact leads_save sound (Workflow.wellFormed_of_ofJson read) _

theorem leads_refused {effect : Effect α} (sound : Sound stage) {saved : Option Workflow}
    (found : (documentOf stage).saved = .ok saved) (still : (effect.perform stage).2 = stage) :
    Leads (Loses none stage) effect stage { documentOf stage with saved := .ok saved } := by
  rw [← found]
  exact leads_still sound not_loses_none rfl still

theorem leads_editAction (sound : Sound stage) (command : Command) {id : Text} {change : Workflow → Workflow}
    (changes : ∀ workflow, command.change workflow = (workflow.find? id).map fun _ => change workflow)
    (keeps : ∀ workflow : Workflow, workflow.WellFormed → (change workflow).WellFormed)
    {answer : Option Workflow → Effect β} (answers : ∀ edited, ∃ value, answer edited = pure value) :
    Leads (Loses ((documentOf stage).edited command.change) stage) (Stage.editAction id change >>= answer) stage
      ((documentOf stage).edit command.change) := by
  simp only [Stage.editAction, Stage.loadOrEmpty, bind_assoc, pure_bind]
  refine leads_edit sound command.change ?_
  intro saved after still wellFormed found
  rw [changes]
  cases present : (saved.getD {}).find? id with
  | none =>
    obtain ⟨value, same⟩ := answers none
    simp only [pure_bind, same]
    exact leads_refused still found rfl
  | some action =>
    obtain ⟨value, same⟩ := answers (some (change (saved.getD {})))
    simp only [bind_assoc, pure_bind, same]
    exact leads_save still (keeps _ wellFormed) value

theorem leads_amendAction (sound : Sound stage) (id : String) (given : Amendment) :
    Leads (Loses (Command.written (.amend id given) (documentOf stage)) stage) (amendAction id given) stage
      (Command.next (.amend id given) (documentOf stage)) := by
  apply leads_editAction sound (.amend id given) (fun _ => rfl)
  · intro workflow wellFormed
    exact wellFormed.update id given.kind given.params
  · intro edited
    cases edited <;> exact ⟨_, rfl⟩

theorem leads_removeAction (sound : Sound stage) (id : String) :
    Leads (Loses (Command.written (.remove id) (documentOf stage)) stage) (removeAction id) stage
      (Command.next (.remove id) (documentOf stage)) := by
  apply leads_editAction sound (.remove id) (fun _ => rfl)
  · intro workflow wellFormed
    exact wellFormed.remove id
  · intro edited
    cases edited <;> exact ⟨_, rfl⟩

theorem leads_reorder (sound : Sound stage) (given : Move) :
    Leads (Loses ((Command.ofMove given).written (documentOf stage)) stage) (reorder given) stage
      ((Command.ofMove given).next (documentOf stage)) := by
  obtain ⟨source, target⟩ := given
  simp only [reorder, Stage.loadOrEmpty, bind_assoc, pure_bind]
  cases target with
  | none =>
    have unlost : ¬ Loses ((documentOf stage).edited (Command.change .keep)) stage := not_loses (fun _ => rfl) _
    refine leads_load_bind sound (fun _ _ => ⟨rfl, unlost⟩) ?_
    intro saved after _ still _ same
    exact leads_still still unlost same rfl
  | some target =>
    refine leads_edit sound (Document.movedWithin source target) ?_
    intro saved after still wellFormed found
    simp only [Document.movedWithin]
    -- within the range the edit decides, and outside it the document stays on both sides
    split
    · cases moved : (saved.getD {}).reorder source (some target) with
      | ok workflow => exact leads_save still (wellFormed.reorder moved) _
      | error fault => exact leads_refused still found rfl
    · exact leads_refused still found rfl

theorem leads_addAction (sound : Sound stage) (given : NewAction) :
    Leads (Loses (Command.written (.add given) (documentOf stage)) stage) (addAction given) stage
      (Command.next (.add given) (documentOf stage)) := by
  simp only [addAction, Stage.addAction, Stage.loadOrEmpty, bind_assoc, pure_bind]
  apply leads_load_bind sound
  · intro fault found
    have unchanged : (documentOf stage).add given = documentOf stage := by rw [Document.add, found]
    rw [Command.next, Command.written, unchanged, found]
    exact ⟨rfl, not_loses_none⟩
  · intro saved after found still store same
    let workflow := saved.getD {}
    let fresh := workflow.freshId after.ids
    obtain ⟨absent, named, rest⟩ := workflow.freshId_spec still.named
    -- the ids drawn are gone before anything is saved
    have drew : Sound { after with ids := fresh.2 } := ⟨still.ready.of_eq rfl rfl, rest⟩
    have ids : after.ids = (documentOf stage).ids := congrArg Document.ids same
    have pushed := (sound.wellFormed_getD found).push given.kind absent named
    rw [Command.next, Command.written, Document.add, found, Loses, ← store]
    apply leads_get_bind
    apply leads_modify_bind
    simp only [Workflow.append, ← ids]
    obtain ⟨kind, params⟩ := given
    cases params with
    | none => exact leads_save drew pushed _
    | some params => exact leads_save drew (pushed.update fresh.1 none (some params)) _

theorem leads_clearStorage (sound : Sound stage) (unlost : ¬ lost) :
    Leads lost clearStorage stage (Command.next .clear (documentOf stage)) := by
  obtain ⟨changed, replaced, holds, _⟩ := sound.ready.usable.replace (Store.takes_nil _) Table.distinct_nil
  have performed := Effect.perform_bind_of_ok (sound.ready.clear replaced) fun _ =>
    (do
      Stage.note { severity := .warning, logger := routerLogger, message := "Storage cleared" }
      return .noContent : Effect Response)
  have store : (clearStorage.perform stage).2.store = changed := by
    rw [clearStorage, performed]
    rfl
  have ids : (clearStorage.perform stage).2.ids = stage.ids := by
    rw [clearStorage, performed]
    rfl
  have refusal : (clearStorage.perform stage).2.refusal = stage.refusal := by
    rw [clearStorage, performed]
    rfl
  have after : Sound (clearStorage.perform stage).2 :=
    ⟨⟨store ▸ holds.usable, refusal ▸ sound.ready.permits⟩, ids ▸ sound.named⟩
  refine ⟨after, fun _ => ?_, fun held => absurd held unlost⟩
  rw [after.documentOf_eq, store, ids, Store.saved, holds.items]
  rfl

/-- A run of the saved workflow in which an action failed, as none can where the store takes every text. -/
structure Failing (settings : Settings) (given : RunOrder) (workflow : Workflow) (stage : Stage) : Prop where
  saved : (documentOf stage).saved = .ok (some workflow)
  failed : ∃ response last delay begun report, (run (some settings) given).perform stage = (.ok response, last) ∧
    Played settings given workflow stage response last delay begun report ∧ ¬ Step.Unfailing report.steps
  unfit : ¬ ((laidOut given workflow stage).Fluent ∧
    ∀ action ∈ workflow.actions, action.params.AllTexts stage.store.Fits)

theorem keeps_play_of_error {keys : Text → Prop} {start : Stage} {settings : Settings} {fault : Fault}
    (pause : settings.pause = .error fault) (given : RunOrder) (workflow : Workflow) :
    (play settings given workflow).Keeps (Stage.Steady keys start) := by
  apply Effect.Keeps.bind Stage.keeps_restore
  intro _
  apply Effect.Keeps.bind
  · exact Stage.keeps_modify_of_unmoved fun _ => ⟨rfl, rfl, rfl⟩
  intro _ stage steady
  have fails : (Effect.ofExcept settings.pause).perform stage = (.error fault, stage) := by
    rw [pause, Effect.perform_ofExcept]
  rw [Effect.perform_bind_of_error fails]
  exact steady

theorem Played.leads {settings : Settings} {given : RunOrder} {workflow : Workflow} {response : Response}
    {last begun : Stage} {delay : Seconds} {report : Report} (sound : Sound stage)
    (saved : (documentOf stage).saved = .ok (some workflow))
    (served : (run (some settings) given).perform stage = (.ok response, last))
    (played : Played settings given workflow stage response last delay begun report) :
    Sound last ∧ (Untouched (documentOf stage) → documentOf last = documentOf stage ∨
      Failing settings given workflow stage ∧ documentOf last = (documentOf stage).emptied) := by
  have laidOut := played.laidOut
  have ready : begun.Ready := laidOut.ready (sound.ready.of_eq rfl rfl)
  have ids : begun.ids = stage.ids := by
    obtain ⟨⟨_, _, _, _, rfl⟩, _⟩ := laidOut
    rfl
  have left (keys : Text → Prop) (apart : ∀ action ∈ workflow.actions, ∀ key, action.Writes key → ¬ keys key)
      (shown : ¬ keys Output.textKey) (pictured : ¬ keys Output.imageKey) : Stage.Lapsing keys begun last := by
    have lapsing := Stage.keeps_run apart shown pictured delay begun ready.lapsing
    rwa [played.ran] at lapsing
  have any := left (fun _ => False) (fun _ _ _ _ => id) id id
  have still : Sound last := ⟨any.ready, any.ids.trans ids ▸ sound.named⟩
  refine ⟨still, fun untouched => ?_⟩
  have apart : ∀ action ∈ workflow.actions, ∀ key, action.Writes key → ¬ key = Workflow.savedKey := by
    rintro action member key writes rfl
    exact untouched workflow saved action member writes
  have shown : ¬ Output.textKey = Workflow.savedKey := by decide
  have pictured : ¬ Output.imageKey = Workflow.savedKey := by decide
  rw [still.documentOf_eq, sound.documentOf_eq]
  by_cases unfailing : Step.Unfailing report.steps
  · have steady : Stage.Steady (· = Workflow.savedKey) begun last :=
      Stage.steady_of_run played.ran unfailing apart shown pictured ready
    refine .inl ?_
    rw [Store.saved, steady.held _ rfl, laidOut.items, any.ids, ids, Store.saved]
  · have failing : Failing settings given workflow stage := by
      refine ⟨saved, ⟨_, _, _, _, _, served, played, unfailing⟩, fun able => unfailing ?_⟩
      obtain ⟨fluent, fits⟩ := able
      have begins := laidOut.fluent fluent.ready fluent.items fluent.given
      obtain ⟨_, _, ran, passed, -⟩ := begins.run delay fun action member field text held =>
        (fits action member field text held).of_path? laidOut.place
      cases played.ran.symm.trans ran
      exact passed
    have lapsing := left (· = Workflow.savedKey) apart shown pictured
    rcases lapsing.held with held | gone
    · refine .inl ?_
      rw [Store.saved, held _ rfl, laidOut.items, any.ids, ids, Store.saved]
    · refine .inr ⟨failing, ?_⟩
      rw [Store.saved, gone _ rfl, any.ids, ids]
      rfl

theorem leads_readWorkflow (sound : Sound stage) (unlost : ¬ lost) :
    Leads lost readWorkflow stage (documentOf stage) := by
  apply leads_load_bind sound
  · exact fun _ _ => ⟨rfl, unlost⟩
  · intro saved after _ still _ same
    cases saved <;> exact leads_still still unlost same rfl

theorem leads_readOutput (sound : Sound stage) (unlost : ¬ lost) : Leads lost readOutput stage (documentOf stage) := by
  apply leads_of_keeps sound unlost rfl
  apply Effect.Keeps.bind Stage.keeps_kept
  exact fun _ => Effect.keeps_pure _

/-! ## Requests -/

/-- A call that was to write something with a half has emptied the file. -/
def Command.Lost (settings : Option Settings) (stage : Stage) : Command → Prop
  | .run given => ∃ known ∈ settings, ∃ workflow, Failing known given workflow stage
  | command => Loses (command.written (documentOf stage)) stage

theorem Command.lost_of_loses {command : Command} {settings : Option Settings}
    (loses : Loses (command.written (documentOf stage)) stage) : command.Lost settings stage := by
  cases command with
  | run given => exact absurd loses (not_loses (fun _ => rfl) _)
  | _ => exact loses

/-- The effect leaves a sound stage, and does to the document what the command says, unless this is lost. Of a run that
writes over the record nothing more is said. -/
structure Follows (settings : Option Settings) (command : Command) (effect : Effect α) (stage : Stage) : Prop where
  sound : Sound (effect.perform stage).2
  document : (∀ given, command = .run given → Untouched (documentOf stage)) →
    documentOf (effect.perform stage).2 = command.next (documentOf stage) ∨
      command.Lost settings stage ∧ documentOf (effect.perform stage).2 = (command.next (documentOf stage)).emptied
  lost : Loses (command.written (documentOf stage)) stage →
    documentOf (effect.perform stage).2 = (command.next (documentOf stage)).emptied

variable {settings : Option Settings} {command : Command}

theorem Leads.follows {effect : Effect α}
    (leads : Leads (Loses (command.written (documentOf stage)) stage) effect stage (command.next (documentOf stage))) :
    Follows settings command effect stage := by
  refine ⟨leads.sound, fun _ => ?_, leads.emptied⟩
  by_cases loses : Loses (command.written (documentOf stage)) stage
  · exact .inr ⟨Command.lost_of_loses loses, leads.emptied loses⟩
  · exact .inl (leads.kept loses)

theorem follows_keep {effect : Effect α} (sound : Sound stage) (still : (effect.perform stage).2 = stage) :
    Follows settings .keep effect stage :=
  Leads.follows (leads_still sound (not_loses (fun _ => rfl) _) rfl still)

theorem follows_withBody {form : Json → Checked α} {request : Request} {handle : α → Effect Response}
    {command : α → Command} (sound : Sound stage)
    (went : ∀ value, Follows settings (command value) (handle value) stage) :
    Follows settings (.ofBody form request command) (withBody form request handle) stage := by
  unfold withBody Command.ofBody
  cases readBody form request with
  | ok value => exact went value
  | error fault =>
    apply follows_keep sound
    rw [Effect.perform_ofExcept]

theorem follows_run (sound : Sound stage) (settings : Option Settings) (given : RunOrder) :
    Follows settings (.run given) (run settings given) stage := by
  have unlost : ¬ Loses (Command.written (.run given) (documentOf stage)) stage := not_loses (fun _ => rfl) _
  cases settings with
  | none => exact Leads.follows (leads_still sound unlost rfl rfl)
  | some settings =>
    have unread (went : ∀ workflow after, (documentOf stage).saved = .ok (some workflow) → Sound after →
        documentOf after = documentOf stage →
        Leads (Loses (Command.written (.run given) (documentOf stage)) stage) (play settings given workflow) after
          (documentOf stage)) : Follows (some settings) (.run given) (run (some settings) given) stage := by
      apply Leads.follows
      refine leads_load_bind sound (fun _ _ => ⟨rfl, unlost⟩) fun found after saved still _ same => ?_
      cases found with
      | none => exact leads_still still unlost same rfl
      | some workflow => exact went workflow after saved still same
    cases saved : (documentOf stage).saved with
    | error fault => exact unread fun workflow after held => nomatch saved.symm.trans held
    | ok found =>
      cases found with
      | none => exact unread fun workflow after held => nomatch saved.symm.trans held
      | some workflow =>
        have held : stage.store.saved Workflow.savedKey = .ok (some workflow) := by rwa [sound.documentOf_eq] at saved
        have plays := played_run settings given held
        unfold Effect.Ends at plays
        cases performed : (run (some settings) given).perform stage with
        | mk result last =>
          rw [performed] at plays
          cases result with
          | ok response =>
            obtain ⟨delay, begun, report, played⟩ := plays
            obtain ⟨still, document⟩ := played.leads sound saved performed
            refine ⟨performed ▸ still, fun untouched => ?_, fun loses => absurd loses unlost⟩
            rw [performed]
            exact (document (untouched given rfl)).imp_right fun ⟨failing, same⟩ =>
              ⟨⟨settings, rfl, workflow, failing⟩, same⟩
          | error fault =>
            -- the stage is ready, so this is a delay that is too long
            cases pause : settings.pause with
            | ok delay => exact absurd ⟨sound.ready, delay, pause⟩ plays
            | error fault =>
              refine unread fun workflow after _ still same => ?_
              exact leads_of_keeps still unlost same (keeps_play_of_error pause given workflow)

theorem follows_handle (sound : Sound stage) (settings : Option Settings) (request : Request)
    (route : Route) :
    Follows settings (.ofRoute request route) (handle settings request route) stage := by
  cases route with
  | run => exact follows_withBody sound (follows_run sound settings)
  | health => exact follows_keep sound rfl
  | readWorkflow => exact Leads.follows (leads_readWorkflow sound (not_loses (fun _ => rfl) _))
  | replaceWorkflow => exact follows_withBody sound fun record => (leads_replaceWorkflow sound record).follows
  | relabel => exact follows_withBody sound fun label => (leads_relabel sound label).follows
  | addAction => exact follows_withBody sound fun given => (leads_addAction sound given).follows
  | amendAction id => exact follows_withBody sound fun given => (leads_amendAction sound id given).follows
  | removeAction id => exact (leads_removeAction sound id).follows
  | reorder => exact follows_withBody sound fun given => (leads_reorder sound given).follows
  | readOutput => exact Leads.follows (leads_readOutput sound (not_loses (fun _ => rfl) _))
  | clearStorage => exact Leads.follows (leads_clearStorage sound (not_loses (fun _ => rfl) _))

theorem respond_of_found {app : App} {request : Request} {route : Route}
    (plain : preflight? app.origins request = none)
    (routed : routing request.method (pathOf request.target) = .found route) (stage : Stage) :
    (app.respond request stage).2 = ((handle app.settings request route).perform stage).2 := by
  simp only [App.respond, App.answer, plain, routed]
  generalize (handle app.settings request route).perform stage = performed
  obtain ⟨result, after⟩ := performed
  cases result <;> rfl

theorem respond_follows (app : App) (request : Request) (sound : Sound stage) :
    let command := app.command request
    let after := (app.respond request stage).2
    let wanted := command.next (documentOf stage)
    Sound after ∧
      ((∀ given, command = .run given → Untouched (documentOf stage)) →
        documentOf after = wanted ∨ command.Lost app.settings stage ∧ documentOf after = wanted.emptied) ∧
      (Loses (command.written (documentOf stage)) stage → documentOf after = wanted.emptied) := by
  cases asked : preflight? app.origins request with
  | some response =>
    simp only [App.respond, App.command, asked]
    exact ⟨sound, fun _ => .inl rfl, fun loses => absurd loses (not_loses (fun _ => rfl) _)⟩
  | none =>
    cases routed : routing request.method (pathOf request.target) with
    | found route =>
      have follows := follows_handle sound app.settings request route
      rw [respond_of_found asked routed]
      simp only [App.command, asked, routed]
      exact ⟨follows.sound, follows.document, follows.lost⟩
    | unknown =>
      simp only [App.respond, App.answer, App.command, asked, routed]
      exact ⟨sound, fun _ => .inl rfl, fun loses => absurd loses (not_loses (fun _ => rfl) _)⟩
    | otherMethod allowed =>
      simp only [App.respond, App.answer, App.command, asked, routed]
      exact ⟨sound, fun _ => .inl rfl, fun loses => absurd loses (not_loses (fun _ => rfl) _)⟩

theorem serve_sound (app : App) (requests : List Request) (sound : Sound stage) :
    Sound (app.serve requests stage) := by
  induction requests generalizing stage with
  | nil => exact sound
  | cons request rest ih => exact ih (respond_follows app request sound).1

/-- The service refines the machine on one document: after any requests, what is loaded after one more is what the
machine has after its command, unless that is a run which writes over the record. Nothing is loaded any more when an
edit, or an action of a run, was to write to a file what has no octets. The ids of a workflow that is loaded are never
empty and never the same. -/
theorem serve_refines_document (app : App) (sound : Sound stage) (past : List Request) :
    let reached := app.serve past stage
    (∀ request, let command := app.command request
      let after := documentOf (app.serve (past ++ [request]) stage)
      let wanted := command.next (documentOf reached)
      ((∀ given, command = .run given → Untouched (documentOf reached)) →
        after = wanted ∨ command.Lost app.settings reached ∧ after = wanted.emptied) ∧
      (Loses (command.written (documentOf reached)) reached → after = wanted.emptied)) ∧
    ∀ workflow, (documentOf reached).saved = .ok (some workflow) → workflow.WellFormed := by
  intro reached
  have sound : Sound reached := serve_sound app past sound
  refine ⟨fun request => ?_, fun workflow saved => sound.wellFormed saved⟩
  have next : app.serve (past ++ [request]) stage = (app.respond request reached).2 := by
    rw [App.serve, List.foldl_append]
    rfl
  simp only [next]
  exact (respond_follows app request sound).2

end

def closedApp : App := ⟨[], none⟩

def jsonRequest (method target body : String) : Request :=
  { method, target, headers := [("content-type", "application/json")], body }

def relabelRequest : Request := jsonRequest "PUT" "/api/workflow/label" "\x7b\"buttonLabel\": \"Go\"\x7d"

def addRequest : Request := jsonRequest "POST" "/api/workflow/actions" "\x7b\"type\": \"closeWindow\"\x7d"

theorem not_loses_of_path? {stage : Stage} (memory : stage.store.path? = none) (written : Option Workflow) :
    ¬ Loses written stage := by
  rintro ⟨workflow, -, unfit⟩
  refine unfit fun entry _ => ⟨fun file => ?_, fun file => ?_⟩ <;> rw [memory] at file <;> cases file

theorem serve_refines_document_twice :
    documentOf (closedApp.serve [relabelRequest, addRequest] { store := .memory [] }) =
        ⟨.ok (some ⟨"Go", [⟨"id_00000000000000000000000000000001", .closeWindow, {}⟩]⟩), ⟨[], 2⟩⟩ := by
  have relabels : closedApp.command relabelRequest = .relabel "Go" := by decide +kernel
  have adds : closedApp.command addRequest = .add ⟨.closeWindow, none⟩ := by decide +kernel
  have sound : Sound { store := .memory [] } :=
    ⟨⟨Table.distinct_nil, fun _ _ => rfl⟩, by simp [IdSource.Named]⟩
  have start : documentOf (closedApp.serve [] { store := .memory [] }) = ⟨.ok none, {}⟩ :=
    sound.documentOf_eq
  have memory : (closedApp.serve [relabelRequest] { store := .memory [] }).store.path? = none := by decide +kernel
  have first := ((serve_refines_document closedApp sound []).1 relabelRequest).1
    (by rw [relabels]; nofun)
  have second := ((serve_refines_document closedApp sound [relabelRequest]).1 addRequest).1
    (by rw [adds]; nofun)
  rw [List.nil_append, relabels, start] at first
  have first := first.resolve_right fun lost => not_loses_of_path? rfl _ lost.1
  rw [List.singleton_append, adds, first] at second
  have second := second.resolve_right fun lost => not_loses_of_path? memory _ lost.1
  rw [second]
  rfl

def showingStage : Stage := { store := .file Store.halvedPlace [("items", .file showingText.toUTF8)] }

theorem ready_showingStage : showingStage.Ready := by
  have content : FileTree.content? [("items", .file showingText.toUTF8)] Store.halvedPlace =
      .ok (some showingText.toUTF8) := rfl
  have opened : FileTree.Open [("items", .file showingText.toUTF8)] Store.halvedPlace ["items"] := ⟨rfl, rfl⟩
  exact ⟨⟨⟨_, Store.contents_showing content⟩, .empty, _, opened.save _⟩, fun _ _ => rfl⟩

/-- A label is given, and the workflow is lost, for there is a half under another key. -/
theorem serve_refines_document_unless_halved :
    Sound showingStage ∧ closedApp.command relabelRequest = .relabel "Go" ∧
      documentOf showingStage = ⟨.ok (some showing), {}⟩ ∧
      Command.next (.relabel "Go") (documentOf showingStage) = ⟨.ok (some showing), {}⟩ ∧
      documentOf (closedApp.serve [relabelRequest] showingStage) = ⟨.ok none, {}⟩ := by
  have relabels : closedApp.command relabelRequest = .relabel "Go" := by decide +kernel
  have content : FileTree.content? [("items", .file showingText.toUTF8)] Store.halvedPlace =
      .ok (some showingText.toUTF8) := rfl
  have sound : Sound showingStage := ⟨ready_showingStage, by simp [IdSource.Named, showingStage]⟩
  have start : documentOf showingStage = ⟨.ok (some showing), {}⟩ := by
    rw [sound.documentOf_eq]
    exact congrArg (Document.mk · {}) (Store.saved_showing content)
  have served : closedApp.serve [relabelRequest] showingStage = (closedApp.respond relabelRequest showingStage).2 := by
    rw [App.serve, List.foldl_cons, List.foldl_nil]
  have lost := (respond_follows closedApp relabelRequest sound).2.2
  simp only [relabels, start, ← served] at lost
  have loses : Loses (Command.written (.relabel "Go") ⟨.ok (some showing), {}⟩) showingStage :=
    ⟨showing, rfl, Store.unfit_showing content (by decide) _⟩
  exact ⟨sound, relabels, start, by rw [start]; rfl, lost loses⟩

end Pushbutton.Service
