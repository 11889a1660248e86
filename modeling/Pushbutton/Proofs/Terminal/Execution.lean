import Pushbutton.Proofs.Stage.Effect
import Pushbutton.Terminal.Execution

/-! From a call of the program to the command in it: the arguments and the settings are read, the logging is set up,
and then the command is all that counts. -/

set_option autoImplicit false

namespace Pushbutton.Terminal

open Stage Effect

variable {setting : Setting} {settings : Settings} {command : Command}

def Setting.stage (setting : Setting) (storage : Path) : Stage where
  store := .file storage setting.files
  host := .console setting.input true false
  draws := setting.draws
  ids := setting.ids

theorem call_eq (asked : Command.read setting.arguments = .ok command)
    (configured : Settings.read setting.environment setting.files = .ok settings) :
    call setting = runCommand setting settings command := by
  rw [call, asked]
  dsimp only
  rw [configured]

/-- Whether a level is known does not depend on what was logged before. -/
theorem configure_known {logging : Log.Setup} {level : String} {stream : Nat}
    (known : (logging.configure level stream).1 = .ok ()) (other : Log.Setup) :
    (other.configure level stream).1 = .ok () := by
  unfold Log.Setup.configure at known ⊢
  dsimp only at known ⊢
  cases found : Log.levels.get? (Text.upperCase level) with
  | some root => rfl
  | none =>
    rw [found] at known
    cases known

theorem runCommand_of_unknown (command : Command) {fault : Log.UnknownLevel}
    (unknown : (setting.logging.configure settings.logLevel 0).1 = .error fault) :
    let aftermath := runCommand setting settings command
    aftermath.ending = .error (.unknownLevel fault) ∧ aftermath.events = [] ∧
      aftermath.files = setting.files := by
  unfold runCommand
  cases configured : setting.logging.configure settings.logLevel 0 with
  | mk outcome logging =>
    rw [configured] at unknown
    cases unknown
    exact ⟨rfl, rfl, rfl⟩

theorem runCommand_of_known (known : (setting.logging.configure settings.logLevel 0).1 = .ok ())
    {ending : Ending} {after : Stage}
    (performed : (performOrReport settings command).perform (setting.stage settings.storage) =
      (.ok ending, after)) :
    let aftermath := runCommand setting settings command
    aftermath.ending = .ok ending ∧ aftermath.events = after.events ∧ aftermath.files = after.store.tree ∧
      aftermath.ids = after.ids := by
  unfold runCommand
  cases configured : setting.logging.configure settings.logLevel 0 with
  | mk outcome logging =>
    rw [configured] at known
    cases known
    unfold Setting.stage at performed
    simp only [performed, and_self]

theorem performOrReport_of_ok {stage after : Stage} {ending : Ending}
    (performed : (perform settings command).perform stage = (.ok ending, after)) :
    (performOrReport settings command).perform stage = (.ok ending, after) := by
  rw [performOrReport, perform_bind_of_ok (perform_get _), performed]
  rfl

theorem performOrReport_of_error {stage after : Stage} {fault : Fault}
    (performed : (perform settings command).perform stage = (.error fault, after)) :
    ∃ entries, (performOrReport settings command).perform stage =
      (.ok { status := 1 }, { after with log := after.log ++ entries }) := by
  rw [performOrReport, perform_bind_of_ok (perform_get _), performed]
  exact ⟨_, rfl⟩

end Pushbutton.Terminal
