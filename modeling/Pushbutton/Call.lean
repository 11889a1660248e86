import Pushbutton.Binary64.Basic
import Pushbutton.Text.Basic

/-! What the program asks of its surroundings, and what it did there. -/

set_option autoImplicit false

namespace Pushbutton

inductive Call where
  | getItem (key : Text)
  | setItem (key value : Text)
  | removeItem (key : Text)
  | clear
  | notify (message : Text)
  | prompt (message : Text)
  | reload
  | hasOpener
  | close
  deriving DecidableEq, Repr

inductive Seconds where
  | whole (count : Int)
  | binary (count : Binary64)
  deriving DecidableEq, Repr

/-- The nearest whole number of milliseconds; time does not run backwards. -/
def Seconds.milliseconds : Seconds → Nat
  | .whole count => count.toNat * 1000
  | .binary (.finite false magnitude exponent) =>
    let (numerator, denominator) := Binary64.fraction magnitude exponent
    Binary64.roundDiv (numerator * 1000) denominator
  | .binary _ => 0

/-- What happened, in order. Reads of the store change nothing and leave no event. -/
inductive Event where
  | called (call : Call)
  | printed (line : Text)
  /-- A question leaves its line open. -/
  | asked (question : Text)
  | slept (time : Seconds)
  | dispatched (id : Text)
  | served (host : String) (port : Int)
  deriving DecidableEq, Repr

end Pushbutton
