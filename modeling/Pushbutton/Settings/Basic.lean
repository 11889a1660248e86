import Pushbutton.Call
import Pushbutton.Fault
import Pushbutton.Settings.EnvFile
import Pushbutton.Text.Integer
import Pushbutton.Text.Split
import Pushbutton.Validation

/-! The settings: where items are stored, how long a pause is, what is logged, and which sites may use the
service. They come from the environment and, behind it, from a file. -/

set_option autoImplicit false

namespace Pushbutton

structure Settings where
  storage : Path := ⟨.working, ["workflow_state", "storage.json"]⟩
  /-- The pause between two actions in milliseconds. -/
  delay : Nat := 200
  logLevel : String := "INFO"
  /-- Allowed sites, with commas between them. -/
  origins : String := "http://localhost:5173,http://127.0.0.1:5173"
  deriving DecidableEq, Repr

inductive SettingsFault where
  | invalidDelay (complaint : Complaint) (given : String)
  | undecodable (fault : Text.Utf8Fault)
  deriving Repr

namespace Settings

def storageName : String := "WORKFLOW_STORAGE_PATH"

def delayName : String := "WORKFLOW_ACTION_DELAY_MS"

def logLevelName : String := "LOG_LEVEL"

def originsName : String := "WORKFLOW_CORS_ORIGINS"

/-- The lower case of the letters whose lower case is a letter of ASCII. -/
def lowerChar (c : Char) : Char := if c = '\u212A' then 'k' else c.toLower

def lower (name : String) : String := String.ofList (name.toList.map lowerChar)

/-- Names that differ only in case are one, and the last of them counts. -/
def caseless {α : Type} (table : Table String α) : Table String α :=
  Table.ofList (table.map fun (name, value) => (lower name, value))

def fileText (tree : FileTree) : Except SettingsFault String :=
  match tree.find (.ofText ".env") with
  | .file _ content => (Text.decodeUtf8 content).mapError .undecodable
  | _ => .ok ""

def readDelay (text : String) : Except SettingsFault Nat :=
  match Text.lenientInteger text with
  | .error .notInteger => .error (.invalidDelay .unreadableInteger text)
  | .error .tooLong => .error (.invalidDelay .oversizedInteger text)
  | .ok n => if n < 0 then .error (.invalidDelay .negativeInteger text) else .ok n.toNat

/-- The environment comes before the file, and the file before what holds when nothing is said. -/
def lookup (environment : Table String String) (file : Table String (Option String)) (name : String) :
    Option String :=
  match environment.get? (lower name) with
  | some value => some value
  | none => (file.get? (lower name)).join

def read (environment : Table String String) (tree : FileTree) : Except SettingsFault Settings := do
  let file := caseless (EnvFile.values environment (← fileText tree))
  let lookup := lookup (caseless environment) file
  let standard : Settings := {}
  let delay ←
    match lookup delayName with
    | some text => readDelay text
    | none => .ok standard.delay
  return {
    storage := ((lookup storageName).map Path.ofText).getD standard.storage
    delay
    logLevel := (lookup logLevelName).getD standard.logLevel
    origins := (lookup originsName).getD standard.origins }

def pause (settings : Settings) : Except Fault Seconds :=
  match Binary64.ofRatio false settings.delay 1000 with
  | .infinite _ => .error .oversizedDelay
  | seconds => .ok (.binary seconds)

/-- The parts between commas that are not blank, without blanks at their ends. -/
def originList (origins : String) : List String :=
  (Text.parts ',' origins).filterMap fun part =>
    let origin := Text.strip part
    if origin = "" then none else some origin

end Settings

end Pushbutton
