import Pushbutton.Call
import Pushbutton.Host
import Pushbutton.Log.Entry
import Pushbutton.Output
import Pushbutton.Store.Basic
import Pushbutton.Workflow.Identifier

/-! All that an action can touch, and the steps of which effects are made. -/

set_option autoImplicit false

namespace Pushbutton

structure Draws where
  number : Nat → Nat
  used : Nat := 0

structure Stage where
  store : Store
  output : Output := {}
  /-- Whether changes of the output are written to the store. -/
  backed : Bool := true
  control : Option Control := none
  host : Host := .page [] false
  draws : Draws := ⟨fun _ => 0, 0⟩
  ids : IdSource := {}
  events : List Event := []
  log : List Log.Entry := []
  /-- How many calls were made that could have been refused. -/
  calls : Nat := 0
  /-- The fault, if any, with which the call of that number ends. -/
  refusal : Nat → Call → Option Fault := fun _ _ => none

/-- A fault leaves in place what was done before it. -/
abbrev Effect (α : Type) := ExceptT Fault (StateM Stage) α

namespace Effect

variable {α : Type}

def perform (effect : Effect α) (stage : Stage) : Except Fault α × Stage := effect.run stage

def fail (fault : Fault) : Effect α := throw fault

def ofExcept : Except Fault α → Effect α
  | .ok value => pure value
  | .error fault => throw fault

end Effect

namespace Stage

def record (event : Event) : Effect Unit :=
  modify fun stage => { stage with events := stage.events ++ [event] }

def note (entry : Log.Entry) : Effect Unit :=
  modify fun stage => { stage with log := stage.log ++ [entry] }

def permit (call : Call) : Effect Unit := do
  let stage ← get
  -- a call that is refused counts too
  set { stage with calls := stage.calls + 1 }
  match stage.refusal stage.calls call with
  | some fault => throw fault
  | none => pure ()

/-- A call that leaves an event, whether or not it is refused. -/
def call (call : Call) : Effect Unit := do
  record (.called call)
  permit call

def draw : Effect Nat := do
  let stage ← get
  set { stage with draws := { stage.draws with used := stage.draws.used + 1 } }
  return stage.draws.number stage.draws.used

def storeLogger : String := "button_workflow.storage"

/-- The items of the store; a file that is no JSON text is reported and counts as empty. -/
def items : Effect (Table Text Text) := do
  let stage ← get
  let contents ← Effect.ofExcept stage.store.contents
  if contents.malformed then
    note { severity := .warning, logger := storeLogger,
           message := "Storage file is not valid JSON; ignoring",
           extra := [("path", Json.optional (fun path => .str path.text) stage.store.path?)] }
  return contents.items

def replaceItems (items : Table Text Text) : Effect Unit := do
  let stage ← get
  match stage.store.replace items with
  | .ok store => set { stage with store }
  | .error fault =>
    set { stage with store := stage.store.abandoned }
    throw fault

def getItem (key : Text) : Effect (Option Text) := do
  permit (.getItem key)
  return (← items).get? key

def setItem (key value : Text) : Effect Unit := do
  call (.setItem key value)
  replaceItems ((← items).put key value)

/-- Nothing is written for a key that is not held. -/
def removeItem (key : Text) : Effect Unit := do
  call (.removeItem key)
  let items ← items
  if items.contains key then replaceItems (items.erase key)

def clear : Effect Unit := do
  call .clear
  replaceItems []

/-- A new text is visible even when the store then refuses it. -/
def setText (text : Text) : Effect Unit := do
  modify fun stage => { stage with output := { stage.output with text } }
  if (← get).backed then setItem Output.textKey text

def setImageUrl (imageUrl : Text) : Effect Unit := do
  modify fun stage => { stage with output := { stage.output with imageUrl } }
  if (← get).backed then setItem Output.imageKey imageUrl

def setResponse (response : Text) : Effect Unit :=
  modify fun stage => { stage with output := { stage.output with response } }

def disable : Effect Unit :=
  modify fun stage => { stage with output := { stage.output with disabled := true } }

def kept : Effect Output := do
  let text ← getItem Output.textKey
  let imageUrl ← getItem Output.imageKey
  return { text := text.getD "", imageUrl := imageUrl.getD "" }

def restore : Effect Unit := do
  let output ← kept
  modify fun stage => { stage with output, backed := true }

def readLine (question : Text) : Effect (Option Text) := do
  record (.asked question)
  let stage ← get
  match stage.host.surface with
  | .page _ _ _ => return none
  | .console waits lines =>
    let (line, lines) := takeLine lines
    set { stage with host := { stage.host with surface := .console waits lines } }
    Effect.ofExcept line.read

def notify (message : Text) : Effect Unit := do
  call (.notify message)
  let stage ← get
  match stage.host.surface with
  | .page answers notifications prompts =>
    set { stage with
          host := { stage.host with surface := .page answers (notifications ++ [message]) prompts } }
  | .console waits _ =>
    record (.printed ("[alert] " ++ message))
    if waits then
      let _ ← readLine "(press Enter to continue) "

def prompt (message : Text) : Effect (Option Text) := do
  call (.prompt message)
  let stage ← get
  match stage.host.surface with
  | .page answers notifications prompts =>
    let (answer, answers) := takeAnswer answers
    set { stage with
          host := { stage.host with surface := .page answers notifications (prompts ++ [message]) } }
    return answer
  | .console _ _ => readLine ("[prompt] " ++ message ++ " ")

def announce (text : String) : Effect Unit := do
  match (← get).host.surface with
  | .page _ _ _ => pure ()
  | .console _ _ => record (.printed text)

def reload : Effect Unit := do
  call .reload
  modify fun stage => { stage with host := { stage.host with reloaded := true } }
  announce "[reload] page reloaded"

def hasOpener : Effect Bool := do
  call .hasOpener
  return (← get).host.openedByOther

def close : Effect Unit := do
  call .close
  modify fun stage => { stage with host := { stage.host with closed := true } }
  announce "[close] window closed"

/-- Sets a property of the button, if there is one, to a value that is then worked out. -/
def setStyle (property : String) (value : Effect Text) : Effect Bool := do
  match (← get).control with
  | none => return false
  | some _ =>
    let value ← value
    modify fun stage => { stage with control := stage.control.map (·.setStyle property value) }
    return true

end Stage

end Pushbutton
