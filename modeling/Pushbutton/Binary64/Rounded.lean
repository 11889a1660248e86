import Pushbutton.Binary64.Text

/-! Binary numbers as text with a given number of digits, rounded from the exact value. -/

set_option autoImplicit false

namespace Pushbutton.Binary64

inductive Layout where
  | fixed
  | scientific
  | general
  deriving DecidableEq, Repr

def withPoint (places : Nat) (keepPoint : Bool) (digits : List Char) : List Char :=
  let digits := zeros (places + 1 - digits.length) ++ digits
  let whole := digits.take (digits.length - places)
  if places = 0 then whole ++ (if keepPoint then ['.'] else [])
  else whole ++ '.' :: digits.drop (digits.length - places)

def fixedText (places : Nat) (keepPoint : Bool) (numerator denominator : Nat) : List Char :=
  withPoint places keepPoint (Text.natDigits (roundDiv (numerator * Nat.pow 10 places) denominator))

/-- The digits of a quotient, one before the point and `places` after it, and its exponent. -/
def roundedDigits (places numerator denominator : Nat) : List Char × Int :=
  if numerator = 0 then (zeros (places + 1), 0)
  else
    let exponent := integerDigits numerator denominator - 1
    let (n, d) := inUnits numerator denominator (exponent - places)
    let digits := Text.natDigits (roundDiv n d)
    -- nines that are rounded up give one digit too many, which is a zero
    if digits.length > places + 1 then (digits.take (places + 1), exponent + 1)
    else (digits, exponent)

def scientificText (places : Nat) (keepPoint : Bool) (numerator denominator : Nat) : List Char :=
  let (digits, exponent) := roundedDigits places numerator denominator
  withPoint places keepPoint digits ++ 'e' :: exponentText exponent

def withoutZeros (text : List Char) : List Char :=
  if text.contains '.' then
    let text := Text.trimEnd (· == '0') text
    if text.getLast? == some '.' then text.dropLast else text
  else text

def generalText (precision : Nat) (keepPoint : Bool) (numerator denominator : Nat) : List Char :=
  let precision := max precision 1
  let (digits, exponent) := roundedDigits (precision - 1) numerator denominator
  let tidy (text : List Char) : List Char := if keepPoint then text else withoutZeros text
  -- the exponent is the one after rounding, which can have raised it
  if -4 ≤ exponent ∧ exponent < precision then
    tidy (fixedText ((precision : Int) - 1 - exponent).toNat keepPoint numerator denominator)
  else
    tidy (withPoint (precision - 1) keepPoint digits) ++ 'e' :: exponentText exponent

/-- The text of a number in a layout; `keepPoint` keeps a point that nothing follows. -/
def roundedText (layout : Layout) (precision : Nat) (keepPoint : Bool) : Binary64 → List Char
  | .finite negative magnitude exponent =>
    let (n, d) := fraction magnitude exponent
    signed negative
      (match layout with
        | .fixed => fixedText precision keepPoint n d
        | .scientific => scientificText precision keepPoint n d
        | .general => generalText precision keepPoint n d)
  | .infinite negative => signed negative "inf".toList
  | .nan => "nan".toList

end Pushbutton.Binary64
