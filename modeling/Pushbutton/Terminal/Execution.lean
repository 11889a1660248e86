import Pushbutton.Log.Setup
import Pushbutton.Run.Live
import Pushbutton.Settings.Basic
import Pushbutton.Terminal.Command
import Pushbutton.Workflow.Listing
import Pushbutton.Workflow.Saved

/-! What the commands do: each works on the stored workflow and ends with a status. -/

set_option autoImplicit false

namespace Pushbutton.Terminal

open Stage

structure Ending where
  status : Nat := 0
  complaints : List String := []
  deriving DecidableEq, Repr

def mainLogger : String := "button_workflow.main"

def serverLogger : String := "button_workflow.server.app"

def noWorkflow : String :=
  "No workflow configured yet. Please configure the workflow first."

def printLines (lines : List Text) : Effect Unit := lines.forM fun line => record (.printed line)

def done : Effect Ending := return {}

def edited (id : String) : Option Workflow → Ending
  | some _ => {}
  | none => { status := 3, complaints := ["No action with id " ++ Text.quoted id] }

/-- Whether both positions are ones that a list of this length has; a missing one cannot be compared. -/
def inRange (count : Nat) (source : Int) (target : Option Int) : Except Fault Bool :=
  if 0 ≤ source ∧ source < count then
    match target with
    | some target => .ok (decide (0 ≤ target ∧ target < count))
    | none =>
      .error (.external "TypeError" "'<=' not supported between instances of 'int' and 'list'")
  else .ok false

def moveAction (source : Int) (target : Option Int) : Effect Ending := do
  let workflow ← loadOrEmpty Workflow.savedKey
  let count := workflow.actions.length
  if ← Effect.ofExcept (inRange count source target) then
    match workflow.reorder source target with
    | .ok workflow =>
      save Workflow.savedKey workflow
      done
    | .error fault => Effect.fail (.external "IndexError" fault.message)
  else
    return {
      status := 2
      complaints := ["Index out of range (0.." ++ Text.intText ((count : Int) - 1) ++ ")"] }

def freshControl (workflow : Workflow) : Control := { label := workflow.displayLabel }

/-- A run on the console, and what is visible after it. A reload leaves only what the store kept. -/
def runWorkflow (settings : Settings) (workflow : Workflow) : Effect Unit := do
  restore
  modify fun stage => { stage with control := some (freshControl workflow) }
  let pause ← Effect.ofExcept settings.pause
  let _ ← Stage.run pause workflow
  if (← get).host.reloaded then
    restore
    modify fun stage => { stage with control := some (freshControl workflow) }
  let stage ← get
  printLines ((stage.control.getD {}).render stage.output)

/-- The texts of an output are written one by one, each of them in octets. -/
def writable (output : Output) : Except Fault Unit :=
  [output.text, output.response, output.imageUrl].forM fun text =>
    match text.encode with
    | .ok _ => .ok ()
    | .error fault =>
      .error (.external "PydanticSerializationError" ("Error serializing to JSON: " ++ (Fault.unencodable fault).line))

def perform (settings : Settings) : Command → Effect Ending
  | .show => do
    match ← load Workflow.savedKey with
    | none => printLines [noWorkflow]
    | some workflow => printLines workflow.describe
    done
  | .add kind params => do
    let (id, _) ← addAction kind params
    printLines [id]
    done
  | .remove id => do
    return edited id (← editAction id fun workflow => workflow.remove id)
  | .update id kind params => do
    return edited id (← editAction id fun workflow => workflow.update id kind params)
  | .move source target => moveAction source target
  | .label text => do
    let _ ← relabel text
    done
  | .run openedByOther noWait => do
    match ← load Workflow.savedKey with
    | none =>
      printLines [noWorkflow]
      return { status := 1 }
    | some workflow =>
      modify fun stage =>
        { stage with
          host :=
            match stage.host.surface with
            | .console _ lines => .console lines (!noWait) openedByOther
            | .page _ _ _ => stage.host }
      runWorkflow settings workflow
      done
  | .output => do
    restore
    let stage ← get
    Effect.ofExcept (writable stage.output)
    printLines [stage.output.toJson.renderIndented]
    done
  | .clear => do
    Stage.clear
    note { severity := .warning, logger := mainLogger, message := "Storage cleared",
           extra := [("path", .str settings.storage.text)] }
    done
  | .serve host port => do
    note { severity := .info, logger := serverLogger, message := "App created",
           extra := [("storage_path", .str settings.storage.text)] }
    record (.served host port)
    done

def performOrReport (settings : Settings) (command : Command) : Effect Ending := do
  match (perform settings command).perform (← get) with
  | (.ok ending, stage) =>
    set stage
    return ending
  | (.error fault, stage) =>
    set stage
    note { severity := .error, logger := mainLogger, message := "Command failed",
           exception := some fault.line }
    return { status := 1 }

/-! The program as a whole -/

/-- What a call of the program finds. Arguments, variables and the names of files are texts without halves. -/
structure Setting where
  arguments : List String
  environment : Table String String := []
  /-- What asking for lines comes to, one after the other. A line may have halves, as where octets that are no text
  are read in their place, or may be such octets, which is a fault. The input has ended after the last one. -/
  input : List Typed := []
  files : FileTree := []
  ids : IdSource := {}
  draws : Draws := ⟨fun _ => 0, 0⟩
  /-- The logging that calls before this one in the same process left. -/
  logging : Log.Setup := {}

inductive Crash where
  | undecodable (fault : Text.Utf8Fault)
  | unknownLevel (fault : Log.UnknownLevel)
  deriving DecidableEq, Repr

def Crash.fault : Crash → Fault
  | .undecodable fault => .undecodable fault
  | .unknownLevel fault => .external "ValueError" fault.message

structure Aftermath where
  ending : Except Crash Ending
  /-- Lines that come before the log. -/
  warnings : List String := []
  log : List Log.Entry := []
  events : List Event := []
  files : FileTree
  ids : IdSource
  draws : Draws
  logging : Log.Setup

def Setting.ended (setting : Setting) (ending : Ending) : Aftermath :=
  { ending := .ok ending, files := setting.files, ids := setting.ids, draws := setting.draws,
    logging := setting.logging }

/-- A text that is too long keeps its first 25 octets and its last 24. -/
def shorten (text : String) : String :=
  let size (characters : List Char) : Nat := (String.ofList characters).utf8ByteSize
  let rec takeSize : Nat → List Char → List Char
    | _, [] => []
    | room, c :: rest =>
      if c.utf8Size ≤ room then c :: takeSize (room - c.utf8Size) rest else []
  let characters := text.toList
  if size characters ≤ 50 then text
  else
    String.ofList (takeSize 25 characters) ++ "..." ++
      String.ofList (takeSize 24 characters.reverse).reverse

def settingsComplaint (complaint : Complaint) (given : String) : List String :=
  ["Configuration error (check your .env):", "1 validation error for WorkflowSettings",
    Settings.delayName,
    "  " ++ complaint.message ++ " [type=" ++ complaint.code ++ ", input_value=" ++
      shorten (Text.quoted given) ++ ", input_type=str]"]

/-- Lines of the file of settings that cannot be read are named as long as nothing is logged. -/
def unreadableWarnings (setting : Setting) : List String :=
  if setting.logging.streams.isEmpty then
    match Settings.fileText setting.files with
    | .ok text =>
      (EnvFile.unreadableLines text).map fun line =>
        "python-dotenv could not parse statement starting at line " ++ Text.natText line
    | .error _ => []
  else []

def helpText (program : String) : List String :=
  ["usage: " ++ program ++ " [-h] ..."]

def runCommand (setting : Setting) (settings : Settings) (command : Command) : Aftermath :=
  let warnings := unreadableWarnings setting
  let (configured, logging) := setting.logging.configure settings.logLevel 0
  match configured with
  | .error fault =>
    { setting.ended {} with ending := .error (.unknownLevel fault), warnings, logging }
  | .ok () =>
    let stage : Stage :=
      { store := .file settings.storage setting.files
        host := .console setting.input true false
        draws := setting.draws, ids := setting.ids }
    let (result, stage) := (performOrReport settings command).perform stage
    let ending : Ending :=
      match result with
      | .ok ending => ending
      | .error _ => { status := 1 }
    { ending := .ok ending
      warnings
      log := stage.log.filter fun entry =>
        !(logging.targets entry.logger entry.severity.level).isEmpty
      events := stage.events
      files := stage.store.tree
      ids := stage.ids
      draws := stage.draws
      logging }

def call (setting : Setting) : Aftermath :=
  match Command.read setting.arguments with
  | .error (.help program) =>
    { setting.ended {} with events := (helpText program).map fun (line : String) => .printed line }
  | .error .version =>
    { setting.ended {} with events := [.printed (Command.program ++ " " ++ Command.version)] }
  | .error (.misuse program message) =>
    setting.ended { status := 2, complaints := [program ++ ": error: " ++ message] }
  | .ok command =>
    match Settings.read setting.environment setting.files with
    | .ok settings => runCommand setting settings command
    | .error (.undecodable fault) =>
      { setting.ended {} with ending := .error (.undecodable fault) }
    | .error (.invalidDelay complaint given) =>
      { setting.ended { status := 2, complaints := settingsComplaint complaint given } with
        warnings := unreadableWarnings setting }

end Pushbutton.Terminal
