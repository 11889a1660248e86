import Pushbutton.Proofs.Edit.Arguments
import Pushbutton.Proofs.Edit.Outcome
import Pushbutton.Proofs.Service.Answer
import Pushbutton.Proofs.Stage.Access
import Pushbutton.Proofs.Terminal.Execution

/-! Edits through the program and through the service: which of the two is asked makes no difference to the
files and the ids, and what one of them says of an edit can be told from what the other says. -/

set_option autoImplicit false

namespace Pushbutton

open Service

/-! ## What is said of an edit -/

/-- A fault ends a command with the status one, and leaves a request without a proper response. -/
def Verdict.endingOf : Except Fault Verdict → Terminal.Ending
  | .ok verdict => verdict.ending
  | .error _ => { status := 1 }

def Verdict.responseOf : Except Fault Verdict → Response
  | .ok verdict => verdict.response
  | .error _ => Response.broken

def Terminal.Aftermath.Exits (aftermath : Terminal.Aftermath) (status : Nat) : Prop :=
  ∃ ending, aftermath.ending = .ok ending ∧ ending.status = status

namespace Verdict

/-- The three ways in which an edit can go, besides a fault, are told apart by both channels. -/
theorem status_iff {outcome : Except Fault Verdict}
    (present : ∀ verdict, outcome = .ok verdict → verdict.Present) :
    ((endingOf outcome).status = 0 ↔ (responseOf outcome).Succeeds) ∧
      ((endingOf outcome).status = 3 ↔ (responseOf outcome).status = 404) ∧
      ((endingOf outcome).status = 2 ↔ (responseOf outcome).status = 422) := by
  cases outcome with
  | error fault => simp [endingOf, responseOf, Response.broken, Response.Succeeds]
  | ok verdict =>
    have present := present verdict rfl
    cases verdict with
    | added id workflow =>
      obtain ⟨action, _, shown⟩ := shownAction_of_isSome present 201
      simp [endingOf, responseOf, ending, response, shown, Response.Succeeds]
    | updated id workflow =>
      obtain ⟨action, _, shown⟩ := shownAction_of_isSome present 200
      simp [endingOf, responseOf, ending, response, shown, Response.Succeeds]
    | removed | cleared =>
      simp [endingOf, responseOf, ending, response, Response.noContent, Response.Succeeds]
    | arranged workflow =>
      simp [endingOf, responseOf, ending, response, shown, Response.ofJson, Response.Succeeds]
    | unknown id =>
      simp [endingOf, responseOf, ending, Terminal.edited, response, notFound, Response.refusal,
        Response.Succeeds]
    | outOfRange count =>
      simp [endingOf, responseOf, ending, response, Service.outOfRange, Response.refusal, Response.Succeeds]

theorem perform_conclude (settings : Settings) (verdict : Verdict) (stage : Stage) :
    ∃ after, (verdict.conclude settings).perform stage = (.ok verdict.ending, after) ∧
      Stage.Unmoved stage after ∧
      ∀ id workflow, verdict = .added id workflow → after.events.getLast? = some (.printed id) := by
  cases verdict with
  | added id workflow =>
    refine ⟨_, rfl, ⟨rfl, rfl, rfl⟩, ?_⟩
    rintro _ _ ⟨⟩
    exact List.getLast?_concat ..
  | _ => exact ⟨_, rfl, ⟨rfl, rfl, rfl⟩, nofun⟩

theorem perform_answer (verdict : Verdict) (stage : Stage) :
    ∃ after, verdict.answer.perform stage = (.ok verdict.response, after) ∧ Stage.Unmoved stage after := by
  cases verdict <;> exact ⟨_, rfl, ⟨rfl, rfl, rfl⟩⟩

end Verdict

namespace Edit

/-! ## Through the program and through the service -/

structure Common where
  files : FileTree
  ids : IdSource

structure Session where
  app : App
  headers : Table String String
  stage : Stage

def called (edit : Edit) (setting : Terminal.Setting) (common : Common) : Terminal.Aftermath :=
  Terminal.call { setting with arguments := edit.arguments, files := common.files, ids := common.ids }

def responded (edit : Edit) (session : Session) (storage : Path) (common : Common) : Response × Stage :=
  session.app.respond (edit.request session.headers)
    { session.stage with store := .file storage common.files, ids := common.ids }

inductive Channel where
  | program (setting : Terminal.Setting)
  | service (session : Session)

/-- The program has settings that name the storage, and a level to log at. The service is asked in JSON, and
none of its calls is refused. -/
def Channel.Serves (storage : Path) (files : FileTree) : Channel → Prop
  | .program setting =>
    ∃ settings, Settings.read setting.environment files = .ok settings ∧ settings.storage = storage ∧
      (setting.logging.configure settings.logLevel 0).1 = .ok ()
  | .service session =>
    isJson session.headers = true ∧ ∀ number call, session.stage.refusal number call = none

def Channel.leaves (storage : Path) (edit : Edit) (common : Common) : Channel → Common
  | .program setting =>
    let aftermath := edit.called setting common
    ⟨aftermath.files, aftermath.ids⟩
  | .service session =>
    let (_, after) := edit.responded session storage common
    ⟨after.store.tree, after.ids⟩

variable {edit : Edit}

theorem Sayable.performOrReport (sayable : edit.Sayable) (settings : Settings) (stage : Stage) :
    ∃ after, (Terminal.performOrReport settings edit.command).perform stage =
        (.ok (Verdict.endingOf (edit.effect.perform stage).1), after) ∧
      Stage.Unmoved (edit.effect.perform stage).2 after ∧
      ∀ id workflow, (edit.effect.perform stage).1 = .ok (.added id workflow) →
        after.events.getLast? = some (.printed id) := by
  cases performed : edit.effect.perform stage with
  | mk outcome middle =>
    cases outcome with
    | error fault =>
      have failed : (Terminal.perform settings edit.command).perform stage = (.error fault, middle) := by
        rw [sayable.perform_command, Effect.perform_bind_of_error performed]
      obtain ⟨entries, reported⟩ := Terminal.performOrReport_of_error failed
      exact ⟨_, reported, ⟨rfl, rfl, rfl⟩, nofun⟩
    | ok verdict =>
      obtain ⟨after, concludes, unmoved, printed⟩ := verdict.perform_conclude settings middle
      have succeeded : (Terminal.perform settings edit.command).perform stage = (.ok verdict.ending, after) := by
        rw [sayable.perform_command, Effect.perform_bind_of_ok performed, concludes]
      refine ⟨after, Terminal.performOrReport_of_ok succeeded, unmoved, ?_⟩
      rintro id workflow ⟨⟩
      exact printed id workflow rfl

structure Common.On (common : Common) (storage : Path) (stage : Stage) : Prop where
  store : stage.store = .file storage common.files
  ids : stage.ids = common.ids
  permits : ∀ number call, stage.refusal number call = none

theorem Common.On.alike {common : Common} {storage : Path} {first second : Stage}
    (one : common.On storage first) (two : common.On storage second) : Stage.Alike first second :=
  ⟨one.store.trans two.store.symm, one.ids.trans two.ids.symm,
    fun number call => ⟨one.permits number call, two.permits number call⟩⟩

variable {storage : Path} {common : Common}

theorem Sayable.called_eq (sayable : edit.Sayable) {setting : Terminal.Setting}
    (serves : (Channel.program setting).Serves storage common.files) :
    ∃ stage, common.On storage stage ∧
      (edit.called setting common).ending = .ok (Verdict.endingOf (edit.effect.perform stage).1) ∧
      (edit.called setting common).files = (edit.effect.perform stage).2.store.tree ∧
      (edit.called setting common).ids = (edit.effect.perform stage).2.ids ∧
      ∀ id workflow, (edit.effect.perform stage).1 = .ok (.added id workflow) →
        (edit.called setting common).events.getLast? = some (.printed id) := by
  obtain ⟨settings, read, names, configured⟩ := serves
  let whole : Terminal.Setting :=
    { setting with arguments := edit.arguments, files := common.files, ids := common.ids }
  have known : (whole.logging.configure settings.logLevel 0).1 = .ok () := configured
  have ran : edit.called setting common = Terminal.runCommand whole settings edit.command :=
    Terminal.call_eq sayable.read_arguments read
  have on : common.On storage (whole.stage settings.storage) := by
    refine ⟨?_, rfl, fun _ _ => rfl⟩
    rw [← names]
    rfl
  obtain ⟨after, reports, unmoved, printed⟩ := sayable.performOrReport settings (whole.stage settings.storage)
  obtain ⟨ending, events, files, ids⟩ := Terminal.runCommand_of_known known reports
  refine ⟨whole.stage settings.storage, on, ?_⟩
  rw [ran, ending, events, files, ids]
  exact ⟨rfl, congrArg Store.tree unmoved.store, unmoved.ids, printed⟩

theorem Sayable.responded_eq (sayable : edit.Sayable) {session : Session}
    (serves : (Channel.service session).Serves storage common.files) :
    ∃ stage, common.On storage stage ∧
      (edit.responded session storage common).1.status =
        (Verdict.responseOf (edit.effect.perform stage).1).status ∧
      (edit.responded session storage common).1.content =
        (Verdict.responseOf (edit.effect.perform stage).1).content ∧
      Stage.Unmoved (edit.effect.perform stage).2 (edit.responded session storage common).2 := by
  obtain ⟨typed, permits⟩ := serves
  let stage : Stage := { session.stage with store := .file storage common.files, ids := common.ids }
  refine ⟨stage, ⟨rfl, rfl, permits⟩, ?_⟩
  have direct : preflight? session.app.origins (edit.request session.headers) = none := by
    cases edit <;> rfl
  have method (response : Response) :
      response.forMethod (edit.request session.headers).method = response := by
    cases edit <;> rfl
  have routed : routing (edit.request session.headers).method (pathOf (edit.request session.headers).target) =
      .found edit.route := sayable.routing_eq
  rw [responded, App.respond, direct]
  simp only [App.answer, routed, method, sayable.handle_request _ typed, Effect.perform_bind]
  rcases edit.effect.perform stage with ⟨outcome, middle⟩
  cases outcome with
  | error fault => exact ⟨rfl, rfl, rfl, rfl, rfl⟩
  | ok verdict =>
    obtain ⟨after, answers, unmoved⟩ := verdict.perform_answer middle
    simp only [answers]
    exact ⟨rfl, rfl, unmoved⟩

/-! ## Whichever is asked -/

structure Agreement (edit : Edit) (aftermath : Terminal.Aftermath) (response : Response) (after : Stage) :
    Prop where
  files : aftermath.files = after.store.tree
  ids : aftermath.ids = after.ids
  ends : ∃ status, aftermath.Exits status
  succeeds : aftermath.Exits 0 ↔ response.Succeeds
  unknown : aftermath.Exits 3 ↔ response.status = 404
  outOfRange : ∀ source target, edit = .move source target → (aftermath.Exits 2 ↔ response.status = 422)
  /-- The id of a new action is what the program prints and what the service shows. -/
  draws : ∀ kind flags, edit = .add kind flags → response.Succeeds →
    ∃ action : Action, aftermath.events.getLast? = some (.printed action.id) ∧
      response.content = .json (actionView action)

theorem yields_added {kind : Option Kind} {flags : List (Field × String)} :
    (effect (.add kind flags)).Yields fun verdict => ∃ id workflow, verdict = .added id workflow := by
  apply Effect.yields_bind
  rintro ⟨id, workflow⟩
  exact Effect.yields_pure ⟨id, workflow, rfl⟩

theorem Sayable.agreement (sayable : edit.Sayable) {setting : Terminal.Setting} {session : Session}
    (program : (Channel.program setting).Serves storage common.files)
    (service : (Channel.service session).Serves storage common.files) :
    Agreement edit (edit.called setting common) (edit.responded session storage common).1
      (edit.responded session storage common).2 := by
  obtain ⟨first, on, ending, files, ids, printed⟩ := sayable.called_eq program
  obtain ⟨second, here, status, content, unmoved⟩ := sayable.responded_eq service
  obtain ⟨result, alike⟩ := edit.twin_effect first second (on.alike here)
  have present (verdict : Verdict) (given : (edit.effect.perform second).1 = .ok verdict) : verdict.Present :=
    edit.yields_effect second verdict given
  obtain ⟨succeeds, unknown, outOfRange⟩ := Verdict.status_iff present
  have exits (status : Nat) : (edit.called setting common).Exits status ↔
      (Verdict.endingOf (edit.effect.perform second).1).status = status := by
    rw [Terminal.Aftermath.Exits, ending, result]
    simp
  constructor
  · rw [files, unmoved.store, alike.store]
  · rw [ids, unmoved.ids, alike.ids]
  · exact ⟨_, (exits _).mpr rfl⟩
  · rw [exits, succeeds, Response.Succeeds, Response.Succeeds, status]
  · rw [exits, unknown, status]
  · intro _ _ _
    rw [exits, outOfRange, status]
  · rintro kind flags rfl success
    cases given : ((effect (.add kind flags)).perform second).1 with
    | error fault =>
      rw [Response.Succeeds, status, given] at success
      exact absurd success (by simp [Verdict.responseOf, Response.broken])
    | ok verdict =>
      obtain ⟨id, workflow, rfl⟩ := yields_added second verdict given
      obtain ⟨action, rfl, shown⟩ := shownAction_of_isSome (present _ given) 201
      refine ⟨action, printed _ workflow (result.trans given), ?_⟩
      rw [content, given, Verdict.responseOf, Verdict.response, shown]

/-- Edits one after another, each of them through any channel that serves the storage. -/
inductive Edited (storage : Path) : List Edit → Common → Common → Prop
  | done (common : Common) : Edited storage [] common common
  | step {edit : Edit} {edits : List Edit} {common last : Common} (channel : Channel)
      (serves : channel.Serves storage common.files)
      (rest : Edited storage edits (channel.leaves storage edit common) last) :
      Edited storage (edit :: edits) common last

theorem Sayable.leaves_eq (sayable : edit.Sayable) {first second : Channel}
    (one : first.Serves storage common.files) (two : second.Serves storage common.files) :
    first.leaves storage edit common = second.leaves storage edit common := by
  -- every channel leaves what the effect leaves on some stage, and all these stages are alike
  have told (channel : Channel) (serves : channel.Serves storage common.files) :
      ∃ stage, common.On storage stage ∧ channel.leaves storage edit common =
        ⟨(edit.effect.perform stage).2.store.tree, (edit.effect.perform stage).2.ids⟩ := by
    cases channel with
    | program setting =>
      obtain ⟨stage, on, _, files, ids, _⟩ := sayable.called_eq serves
      exact ⟨stage, on, by rw [Channel.leaves, files, ids]⟩
    | service session =>
      obtain ⟨stage, on, _, _, unmoved⟩ := sayable.responded_eq serves
      exact ⟨stage, on, by rw [Channel.leaves, ← unmoved.store, ← unmoved.ids]⟩
  obtain ⟨stage, on, leaves⟩ := told first one
  obtain ⟨other, here, left⟩ := told second two
  obtain ⟨_, alike⟩ := edit.twin_effect stage other (on.alike here)
  rw [leaves, left, alike.store, alike.ids]

theorem Edited.unique {edits : List Edit} (sayable : ∀ edit ∈ edits, edit.Sayable) {first second : Common}
    (one : Edited storage edits common first) (two : Edited storage edits common second) :
    first = second := by
  induction one with
  | done => cases two; rfl
  | step channel serves _ ih =>
    obtain ⟨head, tail⟩ := List.forall_mem_cons.mp sayable
    cases two with
    | step other otherServes rest => exact ih tail (head.leaves_eq serves otherServes ▸ rest)

/-- An edit is the same whether the program is called or the service is asked: the files and the ids that are
left are the same, a success of one is a success of the other, and so are the two ways in which an edit is
refused. So edits one after another leave the same, whichever channel is chosen for each of them. -/
theorem channels_agree (storage : Path) (common : Common) :
    (∀ (edit : Edit) (setting : Terminal.Setting) (session : Session), edit.Sayable →
      (Channel.program setting).Serves storage common.files →
      (Channel.service session).Serves storage common.files →
      Agreement edit (edit.called setting common) (edit.responded session storage common).1
        (edit.responded session storage common).2) ∧
    ∀ (edits : List Edit) (first second : Common), (∀ edit ∈ edits, edit.Sayable) →
      Edited storage edits common first → Edited storage edits common second → first = second := by
  constructor
  · intro edit setting session sayable program service
    exact sayable.agreement program service
  · intro edits first second sayable one two
    exact Edited.unique sayable one two

def plainSetting : Terminal.Setting := { arguments := [] }

def plainSession : Session :=
  ⟨⟨[], none⟩, [("content-type", "application/json")], { store := .memory [] }⟩

/-- A new action through the program or through the service, and then a new label through the service. -/
theorem channels_agree_mixed :
    let storage : Path := Settings.storage {}
    let first : Edit := .add (some .showText) [(.message, "a b"), (.message, "")]
    let second : Edit := .label ""
    let common : Common := ⟨[], {}⟩
    (Channel.service plainSession).leaves storage second
        ((Channel.program plainSetting).leaves storage first common) =
      (Channel.service plainSession).leaves storage second
        ((Channel.service plainSession).leaves storage first common) ∧
      Agreement first (first.called plainSetting common) (first.responded plainSession storage common).1
        (first.responded plainSession storage common).2 := by
  intro storage first second common
  have program : (Channel.program plainSetting).Serves storage [] := ⟨{}, rfl, rfl, rfl⟩
  have service (files : FileTree) : (Channel.service plainSession).Serves storage files :=
    ⟨by decide, fun _ _ => rfl⟩
  have adds : first.Sayable := by
    have plain : ∀ value ∈ first.values ++ first.flags.map (·.2), Text.startsWith "-" value = false := by
      decide
    exact ⟨fun value member => Terminal.Rules.readsValue_of_startsWith _ (plain value member), nofun, nofun⟩
  have labels : second.Sayable := by
    have plain : ∀ value ∈ second.values ++ second.flags.map (·.2), Text.startsWith "-" value = false := by
      decide
    exact ⟨fun value member => Terminal.Rules.readsValue_of_startsWith _ (plain value member), nofun, nofun⟩
  obtain ⟨agreement, unique⟩ := channels_agree storage common
  refine ⟨?_, agreement first plainSetting plainSession adds program (service _)⟩
  apply unique [first, second] _ _ (by simp [adds, labels])
  · exact .step (.program plainSetting) program (.step (.service plainSession) (service _) (.done _))
  · exact .step (.service plainSession) (service _) (.step (.service plainSession) (service _) (.done _))

end Edit

end Pushbutton
