import Pushbutton.Text.Blank
import Pushbutton.Text.Digit

/-! Whole numbers as people type them: one reading for command arguments, one for settings. -/

set_option autoImplicit false

namespace Pushbutton.Text

/-- A number of more digits is refused, since reading it takes quadratic time. -/
def digitLimit : Nat := 4300

def ungrouped? : List Char → Option (List Nat)
  | [] => none
  | c :: rest =>
    match digitValue? c with
    | none => none
    | some d =>
      match rest with
      | [] => some [d]
      | '_' :: more => (ungrouped? more).map (d :: ·)
      | c' :: more => (ungrouped? (c' :: more)).map (d :: ·)

def ofDigitValues (digits : List Nat) : Nat := digits.foldl (fun n d => 10 * n + d) 0

def magnitude? (text : List Char) : Option Nat :=
  match ungrouped? text with
  | some digits => if digits.length ≤ digitLimit then some (ofDigitValues digits) else none
  | none => none

/-- An optional sign and decimal digits of any script, between white space. -/
def integer? (text : String) : Option Int :=
  match trim isWhiteSpace text.toList with
  | '-' :: rest => (magnitude? rest).map fun n => -(n : Int)
  | '+' :: rest => (magnitude? rest).map Int.ofNat
  | rest => (magnitude? rest).map Int.ofNat

inductive IntegerFault where
  | notInteger
  | tooLong
  deriving DecidableEq, Repr

/-- What follows leading zeros; underscores among the zeros are passed over, and the last zero
stays in front of a point or at the end. -/
def afterZeros : List Char → Char → Option (List Char)
  | [], last => some [last]
  | c :: rest, last =>
    if c = '0' ∨ c = '_' then afterZeros rest c
    else if isDigit c then some (c :: rest)
    else if c = '.' then some (last :: c :: rest)
    else none

def withoutZeros : List Char → Option (List Char)
  | '0' :: rest => afterZeros rest '0'
  | '-' :: rest => some ('-' :: rest)
  | c :: rest => if isDigit c then some (c :: rest) else none
  | [] => none

def withoutFraction (text : List Char) : List Char :=
  match text.span (· != '.') with
  | (whole, '.' :: zeros) => if !zeros.isEmpty && zeros.all (· == '0') then whole else text
  | _ => text

def hasDoubleUnderscore : List Char → Bool
  | '_' :: '_' :: _ => true
  | _ :: rest => hasDoubleUnderscore rest
  | [] => false

/-- Underscores go, unless one stands at an end or next to another. -/
def withoutUnderscores (text : List Char) : List Char :=
  if text.head? == some '_' || text.getLast? == some '_' || hasDoubleUnderscore text then text
  else text.filter (· != '_')

def canonicalMagnitude (digits : List Char) : Except IntegerFault Nat :=
  if digits.isEmpty || !digits.all isDigit then .error .notInteger
  else if digits.head? == some '0' && digits.length > 1 then .error .notInteger
  else if digits.length > digitLimit then .error .tooLong
  else .ok (ofDigits digits)

def lenientInteger (text : String) : Except IntegerFault Int :=
  let unsigned :=
    match trim isWhiteSpace text.toList with
    -- a plus sign is dropped, and what follows it must not bring a sign of its own
    | '+' :: '-' :: _ => none
    | '+' :: rest => some rest
    | rest => some rest
  match (unsigned.bind withoutZeros).map fun digits => withoutUnderscores (withoutFraction digits) with
  | none => .error .notInteger
  | some ('-' :: digits) => (canonicalMagnitude digits).map fun n => -(n : Int)
  | some digits => (canonicalMagnitude digits).map Int.ofNat

end Pushbutton.Text
