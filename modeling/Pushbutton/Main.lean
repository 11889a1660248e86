import Pushbutton.Terminal.Execution
import Std.Time.DateTime.Timestamp

/-! The program at a terminal. A call is worked out from the lines that were typed so far. When it asks
for a further line it is worked out again with that line, and only what is new in it is carried out. -/

set_option autoImplicit false

namespace Pushbutton.Terminal

def readNode (path : String) : IO (Option (Option ByteArray)) := do
  try
    if ← (← IO.FS.realPath path).isDir then return some none
    return some (some (← IO.FS.readBinFile path))
  catch _ =>
    return none

def readFiles (settings : Option ByteArray) (storage : Path) : IO FileTree := do
  let mut entries := settings.toList.map fun content => (".env", some content)
  for length in List.range storage.parts.length do
    let path := Path.text { storage with parts := storage.parts.take (length + 1) }
    match ← readNode path with
    | some content => entries := entries ++ [(path, content)]
    | none => break
  return .ofEntries entries

def readVariables (names : List String) : IO (Table String String) := do
  let mut table : Table String String := []
  for name in names.flatMap fun name => [name, Settings.lower name] do
    match ← IO.getEnv name with
    | some value => table := table.put name value
    | none => pure ()
  return table

def readLine : IO (Option String) := do
  let line ← try (← IO.getStdin).getLine catch _ => pure ""
  if line = "" then return none
  let line := if Text.endsWith "\n" line then line.toList.dropLast else line.toList
  return some (String.ofList (if line.getLast? == some '\r' then line.dropLast else line))

/-- Half of a pair is replaced. -/
def shown (text : Text) : String := String.ofList (text.toList.map fun c => c.char?.getD '\uFFFD')

def carryOut (ended : Bool) : Event → IO (Option String)
  | .printed line => do
    IO.println (shown line)
    return none
  | .asked question => do
    IO.print (shown question)
    (← IO.getStdout).flush
    if ended then return none
    readLine
  | .slept time => do
    (← IO.getStdout).flush
    IO.sleep time.milliseconds.toUInt32
    return none
  | .served host port => do
    IO.eprintln ("No network is attached at " ++ host ++ ":" ++ Text.intText port)
    return none
  | .called _ | .dispatched _ => return none

/-- Carries out what follows the events that are done. A line that is typed changes what comes after it,
so the call is worked out again with it. -/
partial def play (setting : Setting) (finished : Nat) (ended : Bool) : IO Aftermath := do
  let after := call setting
  let mut finished := finished
  let mut ended := ended
  for event in after.events.drop finished do
    finished := finished + 1
    match ← carryOut ended event, event with
    | some line, _ => return ← play { setting with input := setting.input ++ [.line line] } finished ended
    | none, .asked _ => ended := true
    | none, _ => pure ()
  return after

def now : IO Binary64 := do
  let nanoseconds := (← Std.Time.Timestamp.now).toNanosecondsSinceUnixEpoch.val
  return .ofRatio (decide (nanoseconds < 0)) nanoseconds.natAbs 1000000000

def randomNumber : IO Nat := do
  return (← IO.getRandomBytes 16).foldl (fun n octet => 256 * n + octet.toNat) 0

def drawsFrom (seed : Nat) : Draws where
  number n := (randNat ((List.range n).foldl (fun gen _ => (stdNext gen).2) (mkStdGen seed)) 0 0xFFFFFF).1

def writeStorage (storage : Path) (before after : FileTree) : IO Unit := do
  match after.content? storage with
  | .ok (some content) =>
    match before.content? storage with
    | .ok (some old) => if old.toList == content.toList then return
    | _ => IO.FS.createDirAll storage.parent.text
    IO.FS.writeBinFile storage.text content
  | _ => return

def writeLog (log : List Log.Entry) : IO Unit := do
  let moment ← now
  for entry in log do
    match (entry.toRecord moment).line with
    | .ok line => IO.eprintln (shown line)
    | .error fault => IO.eprintln fault.message

end Pushbutton.Terminal

open Pushbutton Pushbutton.Terminal in
def main (arguments : List String) : IO UInt32 := do
  let settingsFile ← try pure (some (← IO.FS.readBinFile ".env")) catch _ => pure none
  let settingsText := (settingsFile.bind String.fromUTF8?).getD ""
  let environment ← readVariables
    ([Settings.storageName, Settings.delayName, Settings.logLevelName, Settings.originsName] ++
      EnvFile.referenced settingsText.toList)
  let onlySettings : FileTree :=
    .ofEntries (settingsFile.toList.map fun content => (".env", some content))
  let storage :=
    match Settings.read environment onlySettings with
    | .ok settings => settings.storage
    | .error _ => Path.ofText "."
  let files ← readFiles settingsFile storage
  let after ← play
    { arguments, environment, files, ids := { next := ← randomNumber }, draws := drawsFrom (← randomNumber) }
    0 false
  writeStorage storage files after.files
  after.warnings.forM IO.eprintln
  writeLog after.log
  match after.ending with
  | .ok ending =>
    ending.complaints.forM IO.eprintln
    return ending.status.toUInt32
  | .error crash =>
    IO.eprintln crash.fault.line
    return 1
