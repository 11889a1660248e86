import Pushbutton.Fault
import Pushbutton.Json.Reader
import Pushbutton.Json.Writer

/-! Named texts that last: in memory, or in one JSON file that is read again for every access. -/

set_option autoImplicit false

namespace Pushbutton

inductive Store where
  | memory (items : Table Text Text)
  | file (path : Path) (tree : FileTree)

/-- The items that a store holds, and whether its file is no JSON text and so counts as empty. -/
structure Contents where
  items : Table Text Text
  malformed : Bool := false
  deriving DecidableEq, Repr

namespace Contents

/-- Only texts are items. -/
def ofJson : Json → Contents
  | .obj members =>
    ⟨members.filterMap fun (key, value) =>
      match value with
      | .str text => some (key, text)
      | _ => none, false⟩
  | _ => ⟨[], false⟩

def ofText (text : Text) : Except Fault Contents :=
  match Json.parse text with
  | .ok value => .ok (ofJson value)
  | .error (.malformed _ _) => .ok ⟨[], true⟩
  | .error (.oversizedInteger digits) => .error (.oversizedInteger digits)

def ofOctets (octets : ByteArray) : Except Fault Contents :=
  match Text.decodeUtf8 octets with
  | .ok text => ofText text
  | .error fault => .error (.undecodable fault)

end Contents

def fileText (items : Table Text Text) : Text :=
  (Json.obj (items.map fun (key, value) => (key, .str value))).renderIndented ++ "\n"

namespace Store

def contents : Store → Except Fault Contents
  | .memory items => .ok ⟨items, false⟩
  | .file path tree =>
    match tree.content? path with
    | .ok (some octets) => Contents.ofOctets octets
    | .ok none => .ok ⟨[], false⟩
    | .error fault => .error (.file fault)

def replace (items : Table Text Text) : Store → Except Fault Store
  | .memory _ => .ok (.memory items)
  | .file path tree =>
    match (fileText items).encode with
    | .ok octets =>
      match tree.save path octets with
      | .ok tree => .ok (.file path tree)
      | .error fault => .error (.file fault)
    | .error unencodable =>
      -- a file that cannot be written is found before the text that has no octets
      match tree.save path .empty with
      | .ok _ => .error (.unencodable unencodable)
      | .error fault => .error (.file fault)

/-- The same store when its items could not be written. The file is emptied before the items are encoded; when there
can be no file, the directories made for it stay. -/
def abandoned : Store → Store
  | .memory items => .memory items
  | .file path tree =>
    match tree.save path .empty with
    | .ok tree => .file path tree
    | .error _ => .file path (tree.prepared path.parent.start path.parent.parts.length path.parent.parts)

def path? : Store → Option Path
  | .memory _ => none
  | .file path _ => some path

def tree : Store → FileTree
  | .memory _ => []
  | .file _ tree => tree

end Store

end Pushbutton
