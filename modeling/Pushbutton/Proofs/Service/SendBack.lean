import Pushbutton.Proofs.Service.ReadBack
import Pushbutton.Proofs.Stage.Spared

/-! What the service shows of a workflow is a record of it, with more members and nulls for what is absent. Sent
back as it is, it stores the workflow in its own form, and after that it changes nothing. -/

set_option autoImplicit false

namespace Pushbutton

open Service

/-! ## The view as a record -/

theorem Params.ofJson_toFullJson (params : Params) (id : Text) :
    Action.readParams id params.toFullJson = .ok params := by
  have members (field : Field) : Table.get?
      (Field.all.map fun field => ((field.name : Text), Json.optional .str (params.get field))) field.name =
        some (Json.optional .str (params.get field)) := by
    cases field <;> rfl
  have each (field : Field) : check
      (Field.all.map fun field => ((field.name : Text), Json.optional .str (params.get field))) field =
        .ok (params.get field) := by
    rw [check, members]
    cases params.get field <;> rfl
  rw [toFullJson, Action.readParams]
  simp only [ofMembers, each, Checked.both]
  rfl

theorem Action.ofJson_actionView {action : Action} (named : action.id ≠ "") :
    ofJson (actionView action) = .ok action := by
  rw [actionView, ofJson_eq_ok_iff, readId_eq_ok_iff]
  refine ⟨⟨rfl, named⟩, ?_, action.params.ofJson_toFullJson action.id⟩
  simp [Table.get?, readKind, Kind.ofJson?_name]

theorem Workflow.ofJson_workflowView {workflow : Workflow} (wellFormed : workflow.WellFormed)
    (configured : Bool) : ofJson (workflowView configured workflow) = .ok workflow := by
  rw [workflowView, ofJson_eq_ok_iff]
  exact ⟨rfl, ⟨_, rfl, readActions_map fun _ member => Action.ofJson_actionView (wellFormed.named_of_mem member)⟩,
    wellFormed.distinct⟩

/-! ## Sending it back -/

namespace Service

theorem plain_actionView (action : Action) : (actionView action).Plain := by
  have texts (fields : List Field) : (fieldNames fields).Plain := by
    rw [fieldNames, Json.strings, Json.Plain, Json.plainItems_iff]
    simp [Json.Plain]
  have config : action.params.toFullJson.Plain := by
    refine ⟨(by decide : (Field.all.map fun field => (field.name : Text)).Nodup), ?_⟩
    rw [Json.plainMembers_iff, List.forall_mem_map]
    intro field _
    cases action.params.get field <;> trivial
  exact ⟨(by decide : (["id", "type", "label", "config", "inputs", "missing"] : List Text).Nodup),
    trivial, trivial, trivial, config, texts _, texts _, trivial⟩

theorem plain_workflowView (configured : Bool) (workflow : Workflow) :
    (workflowView configured workflow).Plain := by
  have actions : Json.PlainItems (workflow.actions.map actionView) := by
    rw [Json.plainItems_iff, List.forall_mem_map]
    exact fun action _ => plain_actionView action
  exact ⟨(by decide : (["configured", "buttonLabel", "displayLabel", "actions"] : List Text).Nodup),
    trivial, trivial, trivial, actions, trivial⟩

theorem whole_actionView {action : Action} (whole : action.AllTexts Text.Whole) :
    (actionView action).AllTexts Text.Whole := by
  have texts (fields : List Field) : (fieldNames fields).AllTexts Text.Whole := by
    rw [fieldNames, Json.strings, Json.AllTexts, Json.allItems_iff]
    simp [Json.AllTexts]
  have config : action.params.toFullJson.AllTexts Text.Whole := by
    rw [Params.toFullJson, Json.AllTexts, Json.allMembers_iff, List.forall_mem_map]
    intro field _
    refine ⟨Text.whole_ofString _, ?_⟩
    cases given : action.params.get field with
    | none => trivial
    | some text => exact whole.params field text given
  simp [actionView, Json.AllTexts, Json.AllMembers, Json.AllMember, whole.id, config, texts]

/-- A workflow without halves is shown without halves, so that the answer has octets. -/
theorem whole_workflowView {workflow : Workflow} (whole : workflow.AllTexts Text.Whole) (configured : Bool) :
    (workflowView configured workflow).AllTexts Text.Whole := by
  have label : workflow.displayLabel.Whole := by
    unfold Workflow.displayLabel
    split
    · exact Text.whole_ofString _
    · exact whole.label
  have actions : Json.AllItems Text.Whole (workflow.actions.map actionView) := by
    rw [Json.allItems_iff, List.forall_mem_map]
    exact fun action member => whole_actionView (whole.actions action member)
  simp [workflowView, Json.AllTexts, Json.AllMembers, Json.AllMember, whole.label, label, actions]

def Content.body (layout : Json.Layout) : Content → Text
  | .empty => ""
  | .json value => Json.lay layout value
  | .text words => words

/-- A request for the workflow, and one that is sent with the body of its response. -/
structure Exchange where
  layout : Json.Layout
  get : Request
  put : Request

structure Exchange.Proper (exchange : Exchange) : Prop where
  reads : routing exchange.get.method (pathOf exchange.get.target) = .found .readWorkflow
  replaces : routing exchange.put.method (pathOf exchange.put.target) = .found .replaceWorkflow
  typed : isJson exchange.put.headers = true

def Exchange.reply (exchange : Exchange) (read : Response) : Request :=
  { exchange.put with body := read.content.body exchange.layout }

def App.sendBack (app : App) (exchange : Exchange) (stage : Stage) : (Response × Response) × Stage :=
  let (read, after) := app.respond exchange.get stage
  let (written, after) := app.respond (exchange.reply read) after
  ((read, written), after)

def App.sendBacks (app : App) (exchanges : List Exchange) (stage : Stage) : Stage :=
  exchanges.foldl (fun stage exchange => (app.sendBack exchange stage).2) stage

theorem App.sendBacks_cons (app : App) (exchange : Exchange) (rest : List Exchange) (stage : Stage) :
    app.sendBacks (exchange :: rest) stage = app.sendBacks rest (app.sendBack exchange stage).2 := rfl

section

open Stage

variable {stage : Stage} {workflow : Workflow}

/-- The stage is ready, and this is the workflow that is loaded from it and that can be saved to it again. -/
structure Keeps (workflow : Workflow) (stage : Stage) : Prop where
  ready : stage.Ready
  saved : stage.store.saved Workflow.savedKey = .ok (some workflow)
  takes : stage.store.Takes (stage.store.items.put Workflow.savedKey workflow.recordText)

theorem keeps_of_load (distinct : stage.store.items.Distinct)
    (permits : ∀ number call, stage.refusal number call = none)
    (loads : ((load Workflow.savedKey).perform stage).1 = .ok (some workflow))
    (takes : stage.store.Takes (stage.store.items.put Workflow.savedKey workflow.recordText)) :
    Keeps workflow stage := by
  obtain ⟨after, performed, _⟩ := perform_load (permits stage.calls (.getItem Workflow.savedKey))
  rw [performed, bind_eq_ok_iff] at loads
  obtain ⟨_, _, saved⟩ := loads
  refine ⟨⟨?_, permits⟩, saved, takes⟩
  cases store : stage.store with
  | memory items => rwa [store] at distinct
  | file path tree =>
    rw [store] at saved
    exact (Store.open_of_saved saved).1

theorem Keeps.wellFormed (keeps : Keeps workflow stage) : workflow.WellFormed :=
  Store.wellFormed_of_saved keeps.saved

theorem Keeps.load (keeps : Keeps workflow stage) :
    ((Stage.load Workflow.savedKey).perform stage).1 = .ok (some workflow) := by
  obtain ⟨after, loads, _⟩ := keeps.ready.load Workflow.savedKey
  rw [loads, keeps.saved]

theorem Keeps.of_wrote {after : Stage} (keeps : Keeps workflow stage)
    (wrote : Wrote Workflow.savedKey workflow.recordText stage after) : Keeps workflow after := by
  have held : after.store.items.get? Workflow.savedKey = some workflow.recordText := by
    rw [wrote.get?, if_pos rfl]
  refine ⟨wrote.ready keeps.ready, Store.saved_of_recordText held keeps.wellFormed, ?_⟩
  rw [Table.put_get? _ _ _ held]
  exact wrote.takes keeps.takes

theorem Keeps.of_unmoved {after : Stage} (keeps : Keeps workflow stage) (unmoved : Unmoved stage after) :
    Keeps workflow after :=
  ⟨unmoved.ready keeps.ready, unmoved.store ▸ keeps.saved, unmoved.store ▸ keeps.takes⟩

theorem respond_get (ready : stage.Ready) (saved : stage.store.saved Workflow.savedKey = .ok (some workflow))
    (app : App)
    {get : Request} (reads : routing get.method (pathOf get.target) = .found .readWorkflow) :
    ∃ response after, app.respond get stage = (response, after) ∧ response.status = 200 ∧
      response.content = .json (workflowView true workflow) ∧ Unmoved stage after := by
  obtain ⟨after, loads, unmoved⟩ := ready.load Workflow.savedKey
  rw [saved] at loads
  have answers : (handle app.settings get .readWorkflow).perform stage = (.ok (shown workflow), after) :=
    Effect.perform_bind_of_ok loads _
  rw [respond_eq_of_found reads, answers]
  exact ⟨_, after, rfl, rfl, rfl, unmoved⟩

theorem perform_put (wellFormed : workflow.WellFormed) (settings : Option Settings) {put : Request}
    {layout : Json.Layout} (typed : isJson put.headers = true)
    (body : put.body = Json.lay layout (workflowView true workflow)) (stage : Stage) :
    (handle settings put .replaceWorkflow).perform stage =
      (save Workflow.savedKey workflow >>= fun _ => pure (shown workflow)).perform stage := by
  have said : readBody anyObject put = .ok (workflowView true workflow) :=
    readBody_laid typed (plain_workflowView true workflow) body rfl
  rw [handle, withBody, said]
  simp only [replaceWorkflow, Workflow.ofJson_workflowView wellFormed]

theorem Keeps.respond_put (keeps : Keeps workflow stage) (app : App) {put : Request} {layout : Json.Layout}
    (replaces : routing put.method (pathOf put.target) = .found .replaceWorkflow)
    (typed : isJson put.headers = true) (body : put.body = Json.lay layout (workflowView true workflow)) :
    ∃ response after, app.respond put stage = (response, after) ∧ response.status = 200 ∧
      response.content = .json (workflowView true workflow) ∧
      Wrote Workflow.savedKey workflow.recordText stage after ∧
      stage.store.replace (stage.store.items.put Workflow.savedKey workflow.recordText) = .ok after.store := by
  obtain ⟨after, saves, wrote, replaced⟩ := keeps.ready.save keeps.takes
  have answers : (handle app.settings put .replaceWorkflow).perform stage = (.ok (shown workflow), after) :=
    (perform_put keeps.wellFormed app.settings typed body stage).trans (Effect.perform_bind_of_ok saves _)
  rw [respond_eq_of_found replaces, answers]
  exact ⟨_, after, rfl, rfl, rfl, wrote, replaced⟩

/-- Sent back beside a half, the workflow is lost. -/
theorem respond_put_unfit (ready : stage.Ready) (wellFormed : workflow.WellFormed)
    (unfit : ¬ stage.store.Takes (stage.store.items.put Workflow.savedKey workflow.recordText)) (app : App)
    {put : Request}
    {layout : Json.Layout} (replaces : routing put.method (pathOf put.target) = .found .replaceWorkflow)
    (typed : isJson put.headers = true) (body : put.body = Json.lay layout (workflowView true workflow)) :
    ∃ after, app.respond put stage = (.broken, after) ∧
      ((Stage.load Workflow.savedKey).perform after).1 = .ok none := by
  obtain ⟨fault, emptied, failed⟩ := perform_setItem_unfit ready.usable unfit (ready.permits _ _)
  have still := (ready.after_setItem Workflow.savedKey workflow.recordText).1
  have saves : (save Workflow.savedKey workflow).perform stage = _ := Effect.perform_bind_of_error failed _
  have answers : (handle app.settings put .replaceWorkflow).perform stage = _ :=
    (perform_put wellFormed app.settings typed body stage).trans (Effect.perform_bind_of_error saves _)
  rw [failed] at still
  obtain ⟨loaded, loads, _⟩ := still.load Workflow.savedKey
  rw [respond_eq_of_found replaces, answers]
  refine ⟨_, rfl, ?_⟩
  rw [loads, Store.saved, emptied.items]
  rfl

theorem Keeps.sendBack (keeps : Keeps workflow stage) (app : App) {exchange : Exchange}
    (proper : exchange.Proper) :
    ∃ read written after, app.sendBack exchange stage = ((read, written), after) ∧ read.status = 200 ∧
      read.content = .json (workflowView true workflow) ∧ written.status = 200 ∧
      written.content = read.content ∧
      Wrote Workflow.savedKey workflow.recordText stage after ∧
      stage.store.replace (stage.store.items.put Workflow.savedKey workflow.recordText) = .ok after.store := by
  obtain ⟨read, middle, reads, status, content, unmoved⟩ := respond_get keeps.ready keeps.saved app proper.reads
  have body : (exchange.reply read).body = Json.lay exchange.layout (workflowView true workflow) := by
    rw [Exchange.reply, content]
    rfl
  have replaces : routing (exchange.reply read).method (pathOf (exchange.reply read).target) =
      .found .replaceWorkflow := proper.replaces
  obtain ⟨written, after, writes, accepted, shows, wrote, replaced⟩ :=
    (keeps.of_unmoved unmoved).respond_put app replaces proper.typed body
  rw [unmoved.store] at replaced
  refine ⟨read, written, after, ?_, status, content, accepted, shows.trans content.symm, ?_, replaced⟩
  · rw [App.sendBack, reads]
    dsimp only
    rw [writes]
  · exact ⟨unmoved.store ▸ wrote.holds, unmoved.store ▸ wrote.place, wrote.ids.trans unmoved.ids,
      wrote.refusal.trans unmoved.refusal⟩

/-- The workflow is kept in its own form already, so that writing it again changes nothing. -/
structure Settled (workflow : Workflow) (stage : Stage) : Prop where
  keeps : Keeps workflow stage
  again : stage.store.replace (stage.store.items.put Workflow.savedKey workflow.recordText) = .ok stage.store

theorem Keeps.settled {after : Stage} (keeps : Keeps workflow stage)
    (wrote : Wrote Workflow.savedKey workflow.recordText stage after) : Settled workflow after :=
  ⟨keeps.of_wrote wrote, wrote.again⟩

theorem Settled.sendBack (settled : Settled workflow stage) (app : App) {exchange : Exchange}
    (proper : exchange.Proper) :
    Settled workflow (app.sendBack exchange stage).2 ∧ (app.sendBack exchange stage).2.store = stage.store := by
  obtain ⟨read, written, after, sends, -, -, -, -, wrote, replaced⟩ := settled.keeps.sendBack app proper
  rw [sends]
  exact ⟨settled.keeps.settled wrote, (Except.ok.inj (settled.again.symm.trans replaced)).symm⟩

theorem Settled.sendBacks (settled : Settled workflow stage) (app : App) {exchanges : List Exchange}
    (proper : ∀ exchange ∈ exchanges, exchange.Proper) :
    Settled workflow (app.sendBacks exchanges stage) ∧
      (app.sendBacks exchanges stage).store = stage.store := by
  induction exchanges generalizing stage with
  | nil => exact ⟨settled, rfl⟩
  | cons exchange rest ih =>
    rw [List.forall_mem_cons] at proper
    obtain ⟨still, same⟩ := settled.sendBack app proper.1
    obtain ⟨rested, unchanged⟩ := ih still proper.2
    exact ⟨rested, unchanged.trans same⟩

theorem Keeps.sendBacks (keeps : Keeps workflow stage) (app : App) {exchanges : List Exchange}
    (proper : ∀ exchange ∈ exchanges, exchange.Proper) :
    Keeps workflow (app.sendBacks exchanges stage) ∧
      (exchanges ≠ [] → Settled workflow (app.sendBacks exchanges stage)) := by
  cases exchanges with
  | nil => exact ⟨keeps, fun some => absurd rfl some⟩
  | cons exchange rest =>
    rw [List.forall_mem_cons] at proper
    obtain ⟨read, written, after, sends, -, -, -, -, wrote, -⟩ := keeps.sendBack app proper.1
    have settled := ((keeps.settled wrote).sendBacks app proper.2).1
    rw [App.sendBacks_cons, sends]
    exact ⟨settled.keeps, fun _ => settled⟩

/-- What is shown of a workflow without halves has octets and can be sent back as it is, any number of times, if nothing
else in the store has halves either. It is accepted, shown again and loaded again, it is stored in its own form, and
from the second time on the store stays as it is. -/
theorem sendBack_settles (app : App) (distinct : stage.store.items.Distinct)
    (permits : ∀ number call, stage.refusal number call = none)
    (loads : ((load Workflow.savedKey).perform stage).1 = .ok (some workflow)) (whole : workflow.AllTexts Text.Whole)
    (takes : stage.store.Takes (stage.store.items.put Workflow.savedKey workflow.recordText)) {past : List Exchange}
    (regular : ∀ exchange ∈ past, exchange.Proper) {exchange : Exchange} (proper : exchange.Proper) :
    let before := app.sendBacks past stage
    ∃ read written after, app.sendBack exchange before = ((read, written), after) ∧
      read.status = 200 ∧ read.content = .json (workflowView true workflow) ∧
      (exchange.reply read).body.Whole ∧
      written.status = 200 ∧ written.content = read.content ∧
      ((load Workflow.savedKey).perform after).1 = .ok (some workflow) ∧
      ((getItem Workflow.savedKey).perform after).1 = .ok (some workflow.recordText) ∧
      (∀ key ≠ Workflow.savedKey, after.store.items.get? key = before.store.items.get? key) ∧
      (past ≠ [] → after.store = before.store) := by
  intro before
  obtain ⟨keeps, settles⟩ := (keeps_of_load distinct permits loads takes).sendBacks app regular
  obtain ⟨read, written, after, sends, status, content, accepted, same, wrote, -⟩ := keeps.sendBack app proper
  have kept := keeps.of_wrote wrote
  refine ⟨read, written, after, sends, status, content, ?_, accepted, same, kept.load, ?_, ?_, ?_⟩
  · rw [Exchange.reply, content]
    exact Json.whole_lay.mpr (whole_workflowView whole true)
  · rw [kept.ready.getItem, wrote.get?, if_pos rfl]
  · intro key other
    rw [wrote.get?, if_neg (Ne.symm other)]
  · intro more
    have still := ((settles more).sendBack app proper).2
    rwa [sends] at still

end

/-- A record with its members in another order, a null for its parameters and a member that means nothing. -/
def looseText : String :=
  "\x7b\"actions\": [\x7b\"type\": \"alert\", \"config\": null, \"id\": \"a\"\x7d], \"x\": 1,  \"buttonLabel\": \"Go\"\x7d"

def plainExchange : Exchange := ⟨.compact, readRequest, jsonRequest "PUT" "/api/workflow" ""⟩

theorem sendBack_settles_loose :
    let workflow : Workflow := ⟨"Go", [⟨"a", .alert, {}⟩]⟩
    let stage : Stage := { store := .memory [(Workflow.savedKey, (looseText : Text))] }
    let once := closedApp.sendBacks [plainExchange] stage
    looseText ≠ workflow.recordText ∧ plainExchange.Proper ∧ stage.store.items.Distinct ∧
      ((Stage.load Workflow.savedKey).perform stage).1 = .ok (some workflow) ∧
      ((Stage.load Workflow.savedKey).perform (closedApp.sendBack plainExchange once).2).1 =
        .ok (some workflow) ∧
      (closedApp.sendBack plainExchange once).2.store = once.store := by
  intro workflow stage once
  have distinct : stage.store.items.Distinct := List.nodup_singleton _
  have loads : ((Stage.load Workflow.savedKey).perform stage).1 = .ok (some workflow) := by decide +kernel
  have proper : plainExchange.Proper := ⟨by decide +kernel, by decide +kernel, by decide +kernel⟩
  have whole : workflow.AllTexts Text.Whole := Workflow.whole_recordText.mp (by decide +kernel)
  obtain ⟨_, _, again, sends, -, -, -, -, -, reloads, -, -, same⟩ :=
    sendBack_settles closedApp distinct (fun _ _ => rfl) loads whole Store.takes_memory
      (List.forall_mem_singleton.mpr proper) proper
  refine ⟨by decide +kernel, proper, distinct, loads, ?_⟩
  rw [sends]
  exact ⟨reloads, same (List.cons_ne_nil _ _)⟩

theorem sendBack_settles_unless_halved :
    showingStage.store.items.Distinct ∧ plainExchange.Proper ∧ showing.AllTexts Text.Whole ∧
      ((Stage.load Workflow.savedKey).perform showingStage).1 = .ok (some showing) ∧
      ∃ read written after, closedApp.sendBack plainExchange showingStage = ((read, written), after) ∧
        read.status = 200 ∧ read.content = .json (workflowView true showing) ∧ written.status = 500 ∧
        ((Stage.load Workflow.savedKey).perform after).1 = .ok none := by
  have content : FileTree.content? [("items", .file showingText.toUTF8)] Store.halvedPlace =
      .ok (some showingText.toUTF8) := rfl
  have ready : showingStage.Ready := ready_showingStage
  have wellFormed : showing.WellFormed := ⟨by decide, by decide⟩
  have proper : plainExchange.Proper := ⟨by decide +kernel, by decide +kernel, by decide +kernel⟩
  have whole : showing.AllTexts Text.Whole := Workflow.whole_recordText.mp (by decide +kernel)
  have saved : showingStage.store.saved Workflow.savedKey = .ok (some showing) := Store.saved_showing content
  obtain ⟨read, middle, reads, status, shows, unmoved⟩ := respond_get ready saved closedApp proper.reads
  have body : (plainExchange.reply read).body = Json.lay .compact (workflowView true showing) := by
    rw [Exchange.reply, shows]
    rfl
  have unfit : ¬ middle.store.Takes (middle.store.items.put Workflow.savedKey showing.recordText) :=
    unmoved.store ▸ Store.unfit_showing content (by decide) _
  have replaces : routing (plainExchange.reply read).method (pathOf (plainExchange.reply read).target) =
      .found .replaceWorkflow := proper.replaces
  obtain ⟨after, writes, gone⟩ :=
    respond_put_unfit (unmoved.ready ready) wellFormed unfit closedApp replaces proper.typed body
  obtain ⟨loaded, loads, _⟩ := ready.load Workflow.savedKey
  rw [saved] at loads
  refine ⟨ready.usable.distinct, proper, whole, congrArg Prod.fst loads, read, .broken, after, ?_, status, shows, rfl,
    gone⟩
  rw [App.sendBack, reads]
  dsimp only
  rw [writes]

end Service

end Pushbutton
