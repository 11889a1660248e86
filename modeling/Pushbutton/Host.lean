import Pushbutton.Fault

/-! The surface around a button: it shows notices, asks for answers, reloads and closes. -/

set_option autoImplicit false

namespace Pushbutton

/-- What asking for a line comes to: the line, nothing at the end of the input, or octets that are no text. -/
inductive Typed where
  | line (text : Text)
  | ended
  | undecodable (fault : Text.Utf8Fault)
  deriving DecidableEq, Repr

/-- A page keeps what it was told and answers from a list; a console prints and reads lines. -/
inductive Surface where
  | page (answers : List (Option Text)) (notifications prompts : List Text)
  | console (waits : Bool) (lines : List Typed)
  deriving DecidableEq, Repr

structure Host where
  surface : Surface
  openedByOther : Bool := false
  reloaded : Bool := false
  closed : Bool := false
  deriving DecidableEq, Repr

namespace Host

def page (answers : List (Option Text)) (openedByOther : Bool) : Host :=
  { surface := .page answers [] [], openedByOther }

def console (lines : List Typed) (waits openedByOther : Bool) : Host :=
  { surface := .console waits lines, openedByOther }

end Host

/-- The next answer; none means that there is none or that it was withheld. -/
def takeAnswer : List (Option Text) → Option Text × List (Option Text)
  | [] => (none, [])
  | answer :: rest => (answer, rest)

def Typed.read : Typed → Except Fault (Option Text)
  | .line text => .ok (some text)
  | .ended => .ok none
  | .undecodable fault => .error (.undecodable fault)

def takeLine : List Typed → Typed × List Typed
  | [] => (.ended, [])
  | line :: rest => (line, rest)

end Pushbutton
