import Pushbutton.Json.Fault
import Pushbutton.Run.Phase
import Pushbutton.Store.FileTree
import Pushbutton.Text.Utf8

/-! What can go wrong while actions run and the store is used. -/

set_option autoImplicit false

namespace Pushbutton

inductive Fault where
  /-- Raised by a host, a store or a dispatcher that comes from outside. -/
  | external (kind message : String)
  | file (fault : FileFault)
  | undecodable (fault : Text.Utf8Fault)
  | unencodable (fault : Text.EncodeFault)
  | oversizedInteger (digits : Nat)
  | oversizedDelay
  | illegalTransition (fault : IllegalTransition)
  deriving DecidableEq, Repr

namespace Fault

def kind : Fault → String
  | .external kind _ => kind
  | .file ⟨.noEntry, _⟩ => "FileNotFoundError"
  | .file ⟨.exists, _⟩ => "FileExistsError"
  | .file ⟨.notDirectory, _⟩ => "NotADirectoryError"
  | .file ⟨.isDirectory, _⟩ => "IsADirectoryError"
  | .undecodable _ => "UnicodeDecodeError"
  | .unencodable _ => "UnicodeEncodeError"
  | .oversizedInteger _ => "ValueError"
  | .oversizedDelay => "OverflowError"
  | .illegalTransition _ => "IllegalTransitionError"

def message : Fault → String
  | .external _ message => message
  | .file fault => fault.message
  | .undecodable fault => fault.message
  | .unencodable fault => fault.message
  | .oversizedInteger digits => Json.oversizedMessage digits
  | .oversizedDelay => "integer division result too large for a float"
  | .illegalTransition fault => fault.message

def line (fault : Fault) : String := fault.kind ++ ": " ++ fault.message

end Fault

end Pushbutton
