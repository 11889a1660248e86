import Pushbutton.Text.Digit

/-! Octets as text, and text as octets; and the first place at which there is no such text or no such octets. -/

set_option autoImplicit false

namespace Pushbutton.Text

inductive Utf8Problem where
  | badStart
  | badContinuation
  | endOfData
  deriving DecidableEq, Repr

/-- A row of octets that cannot be decoded: where it starts, how long it is, and its first octet. -/
structure Utf8Fault where
  problem : Utf8Problem
  start : Nat
  length : Nat
  octet : Nat
  deriving DecidableEq, Repr

def Utf8Problem.message : Utf8Problem → String
  | .badStart => "invalid start byte"
  | .badContinuation => "invalid continuation byte"
  | .endOfData => "unexpected end of data"

def Utf8Fault.message (fault : Utf8Fault) : String :=
  let place :=
    if fault.length = 1 then
      "byte 0x" ++ String.ofList (hexDigits 2 fault.octet) ++ " in position " ++ natText fault.start
    else
      "bytes in position " ++ natText fault.start ++ "-" ++ natText (fault.start + fault.length - 1)
  "'utf-8' codec can't decode " ++ place ++ ": " ++ fault.problem.message

def isContinuation (octet : Nat) : Bool := 0x80 ≤ octet && octet < 0xC0

/-- How many octets a sequence has, with the range of its second octet. -/
def sequence? (first : Nat) : Option (Nat × Nat × Nat) :=
  -- narrower ranges keep out needlessly long forms, halves of pairs and numbers past the last one
  if 0xC2 ≤ first ∧ first ≤ 0xDF then some (2, 0x80, 0xBF)
  else if first = 0xE0 then some (3, 0xA0, 0xBF)
  else if first = 0xED then some (3, 0x80, 0x9F)
  else if 0xE1 ≤ first ∧ first ≤ 0xEF then some (3, 0x80, 0xBF)
  else if first = 0xF0 then some (4, 0x90, 0xBF)
  else if first = 0xF4 then some (4, 0x80, 0x8F)
  else if 0xF1 ≤ first ∧ first ≤ 0xF3 then some (4, 0x80, 0xBF)
  else none

def checkTail : Nat → Nat → List Nat → Except (Utf8Problem × Nat) Unit
  | 0, _, _ => .ok ()
  | _ + 1, length, [] => .error (.endOfData, length)
  | wanted + 1, length, octet :: rest =>
    if isContinuation octet then checkTail wanted (length + 1) rest
    else .error (.badContinuation, length)

def checkSequence (first : Nat) (rest : List Nat) : Except (Utf8Problem × Nat) Nat :=
  if first < 0x80 then .ok 1
  else
    match sequence? first, rest with
    | none, _ => .error (.badStart, 1)
    | some _, [] => .error (.endOfData, 1)
    | some (count, low, high), second :: rest =>
      if low ≤ second ∧ second ≤ high then (checkTail (count - 2) 2 rest).map fun _ => count
      else .error (.badContinuation, 1)

def utf8FaultFrom : Nat → Nat → List Nat → Option Utf8Fault
  | 0, _, _ => none
  | _, _, [] => none
  | fuel + 1, start, first :: rest =>
    match checkSequence first rest with
    | .ok length => utf8FaultFrom fuel (start + length) (rest.drop (length - 1))
    | .error (problem, length) => some ⟨problem, start, length, first⟩

def utf8Fault (octets : ByteArray) : Utf8Fault :=
  (utf8FaultFrom octets.size 0 (octets.toList.map UInt8.toNat)).getD ⟨.badStart, 0, 1, 0⟩

def decodeUtf8 (octets : ByteArray) : Except Utf8Fault String :=
  match String.fromUTF8? octets with
  | some text => .ok text
  | none => .error (utf8Fault octets)

theorem decodeUtf8_toUTF8 (text : String) : decodeUtf8 text.toUTF8 = .ok text := by
  have valid : text.toUTF8.IsValidUTF8 := text.isValidUTF8
  unfold decodeUtf8 String.fromUTF8?
  rw [dif_pos valid]
  rfl

theorem toUTF8_of_decodeUtf8 {octets : ByteArray} {text : String}
    (decoded : decodeUtf8 octets = .ok text) : text.toUTF8 = octets := by
  unfold decodeUtf8 String.fromUTF8? at decoded
  split at decoded
  · next found =>
    split at found
    · cases decoded
      cases found
      rfl
    · cases found
  · cases decoded

/-- A row of halves that has no octets: where it starts, how long it is, and its first half. -/
structure EncodeFault where
  start : Nat
  length : Nat
  first : Half
  deriving DecidableEq, Repr

def EncodeFault.message (fault : EncodeFault) : String :=
  let place :=
    if fault.length = 1 then
      "character '\\u" ++ String.ofList (hexDigits 4 fault.first.code) ++ "' in position " ++ natText fault.start
    else
      "characters in position " ++ natText fault.start ++ "-" ++ natText (fault.start + fault.length - 1)
  "'utf-8' codec can't encode " ++ place ++ ": surrogates not allowed"

def encodeFaultFrom? : Nat → List CodePoint → Option EncodeFault
  | _, [] => none
  | start, .char _ :: rest => encodeFaultFrom? (start + 1) rest
  | start, .half unit :: rest => some ⟨start, (rest.takeWhile (·.char?.isNone)).length + 1, unit⟩

def encode (text : Text) : Except EncodeFault ByteArray :=
  match encodeFaultFrom? 0 text.toList with
  | some fault => .error fault
  | none => .ok (String.ofList (text.toList.filterMap CodePoint.char?)).toUTF8

end Pushbutton.Text
