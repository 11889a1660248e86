import Pushbutton.Proofs.Run.Script
import Pushbutton.Proofs.Stage.Uniform

/-! What a call on the host comes to. A host is reached only through its own calls, and they reach nothing else:
each of them replies and alters the host in a way that is told from the host alone. -/

set_option autoImplicit false

namespace Pushbutton

namespace Typed

def ofAnswer : Option Text → Typed
  | some text => .line text
  | none => .ended

@[simp] theorem read_ofAnswer (answer : Option Text) : (ofAnswer answer).read = .ok answer := by
  cases answer <;> rfl

@[simp] theorem takeLine_map_ofAnswer (answers : List (Option Text)) :
    takeLine (answers.map ofAnswer) = (ofAnswer (takeAnswer answers).1, (takeAnswer answers).2.map ofAnswer) := by
  cases answers <;> rfl

end Typed

namespace Host

def given (host : Host) : List Typed :=
  match host.surface with
  | .page answers _ _ => answers.map Typed.ofAnswer
  | .console _ lines => lines

/-- A console that waits reads a line also after a notice. -/
def reply (host : Host) : (call : Call) → Except Fault call.Reply
  | .prompt _ => (takeLine host.given).1.read
  | .notify _ =>
    match host.surface with
    | .console true lines => (takeLine lines).1.read.map fun _ => ()
    | .page _ _ _ | .console false _ => .ok ()
  | .hasOpener => .ok host.openedByOther
  | .getItem _ => .ok none
  | .setItem _ _ | .removeItem _ | .clear | .reload | .close => .ok ()

def after (host : Host) : Call → Host
  | .notify message =>
    match host.surface with
    | .page answers notifications prompts =>
      { host with surface := .page answers (notifications ++ [message]) prompts }
    | .console waits lines =>
      { host with surface := .console waits (if waits then (takeLine lines).2 else lines) }
  | .prompt message =>
    match host.surface with
    | .page answers notifications prompts =>
      { host with surface := .page (takeAnswer answers).2 notifications (prompts ++ [message]) }
    | .console waits lines => { host with surface := .console waits (takeLine lines).2 }
  | .reload => { host with reloaded := true }
  | .close => { host with closed := true }
  | .hasOpener | .getItem _ | .setItem _ _ | .removeItem _ | .clear => host

def shows (host : Host) (call : Call) : List Event :=
  .called call ::
    match host.surface, call with
    | .console waits _, .notify message =>
      .printed ("[alert] " ++ message) :: if waits then [.asked "(press Enter to continue) "] else []
    | .console _ _, .prompt message => [.asked ("[prompt] " ++ message ++ " ")]
    | .console _ _, .reload => [.printed "[reload] page reloaded"]
    | .console _ _, .close => [.printed "[close] window closed"]
    | _, _ => []

end Host

namespace Stage

def hosted (stage : Stage) (call : Call) : Stage :=
  { stage with
    host := stage.host.after call
    events := stage.events ++ stage.host.shows call
    calls := stage.calls + 1 }

variable {stage : Stage} {call : Call}

theorem perform_announce (text : String) :
    (announce text).perform stage =
      (.ok (), { stage with
        events := stage.events ++
          match stage.host.surface with
          | .page _ _ _ => []
          | .console _ _ => [.printed text] }) := by
  rw [announce, Effect.perform_bind, Effect.perform_get]
  dsimp only
  cases stage.host.surface with
  | page answers notifications prompts =>
    simp only [List.append_nil]
    rfl
  | console waits lines => rfl

theorem perform_readLine (question : Text) {waits : Bool} {lines : List Typed}
    (console : stage.host.surface = .console waits lines) :
    (readLine question).perform stage =
      ((takeLine lines).1.read, { stage with
        host := { stage.host with surface := .console waits (takeLine lines).2 }
        events := stage.events ++ [.asked question] }) := by
  let asked : Stage := { stage with events := stage.events ++ [.asked question] }
  have recorded : (record (.asked question)).perform stage = (.ok (), asked) := rfl
  have there : asked.host.surface = .console waits lines := console
  rw [readLine, Effect.perform_bind_of_ok recorded, Effect.perform_bind, Effect.perform_get]
  dsimp only
  rw [there]
  dsimp only
  rw [Effect.perform_bind_of_ok (Effect.perform_set _ _), Effect.perform_ofExcept]

theorem perform_onHost (onHost : call.OnHost) (granted : stage.refusal stage.calls call = none) :
    call.effect.perform stage = (stage.host.reply call, stage.hosted call) := by
  have called := perform_call granted
  obtain ⟨store, output, backed, control, ⟨surface, openedByOther, reloaded, closed⟩, draws⟩ := stage
  cases call with
  | notify message =>
    rw [Call.effect, notify, Effect.perform_bind_of_ok called]
    cases surface with
    | page answers notifications prompts => rfl
    | console waits lines =>
      cases waits with
      | false => simp [hosted, Host.after, Host.shows, Host.reply, Stage.called, record, Effect.perform_bind]
      | true =>
        simp only [Stage.called, record, Effect.perform_bind, Effect.perform_get, Effect.perform_modify, if_true]
        rw [perform_readLine _ rfl]
        cases read : (takeLine lines).1.read <;> simp [hosted, Host.after, Host.shows, Host.reply, read, Except.map]
  | prompt message =>
    rw [Call.effect, prompt, Effect.perform_bind_of_ok called, Effect.perform_bind, Effect.perform_get]
    cases surface with
    | page answers notifications prompts =>
      simp only [Host.reply, Host.given, Typed.takeLine_map_ofAnswer, Typed.read_ofAnswer]
      rfl
    | console waits lines =>
      simp only [Stage.called]
      rw [perform_readLine _ rfl]
      simp [hosted, Host.after, Host.shows, Host.reply, Host.given]
  | reload =>
    rw [Call.effect, reload, Effect.perform_bind_of_ok called, Effect.perform_bind, Effect.perform_modify]
    simp only [perform_announce, hosted, Host.after, Host.shows, Host.reply, Stage.called, List.append_assoc]
    cases surface <;> rfl
  | close =>
    rw [Call.effect, close, Effect.perform_bind_of_ok called, Effect.perform_bind, Effect.perform_modify]
    simp only [perform_announce, hosted, Host.after, Host.shows, Host.reply, Stage.called, List.append_assoc]
    cases surface <;> rfl
  | hasOpener =>
    rw [Call.effect, hasOpener, Effect.perform_bind_of_ok called]
    cases surface <;> rfl
  | getItem | setItem | removeItem | clear => exact onHost.elim

theorem perform_onHost_refused {fault : Fault} (onHost : call.OnHost)
    (refused : stage.refusal stage.calls call = some fault) :
    call.effect.perform stage = (.error fault, stage.called call) := by
  have failed := perform_call_refused refused
  cases call with
  | notify | prompt | reload | hasOpener | close => exact Effect.perform_bind_of_error failed _
  | getItem | setItem | removeItem | clear => exact onHost.elim

end Stage

end Pushbutton
