import Pushbutton.Binary64.Shortest

/-! Binary numbers as text: the shortest digits, positional for moderate exponents. -/

set_option autoImplicit false

namespace Pushbutton.Binary64

def zeros (count : Nat) : List Char := List.replicate count '0'

def exponentText (exponent : Int) : List Char :=
  let digits := Text.natDigits exponent.natAbs
  (if exponent < 0 then '-' else '+') :: (zeros (2 - digits.length) ++ digits)

/-- Digits with a point in their place; a whole number keeps one zero after it. -/
def positional (decimal : Decimal) : List Char :=
  match decimal.point with
  | .negSucc n => '0' :: '.' :: (zeros (n + 1) ++ decimal.digits)
  | .ofNat 0 => '0' :: '.' :: decimal.digits
  | .ofNat point =>
    if decimal.digits.length ≤ point then
      decimal.digits ++ zeros (point - decimal.digits.length) ++ ['.', '0']
    else decimal.digits.take point ++ '.' :: decimal.digits.drop point

def scientific (decimal : Decimal) : List Char :=
  let mantissa :=
    match decimal.digits with
    | [] => []
    | [digit] => [digit]
    | digit :: rest => digit :: '.' :: rest
  mantissa ++ 'e' :: exponentText (decimal.point - 1)

/-- Positional from one ten-thousandth up to sixteen digits before the point. -/
def decimalText (decimal : Decimal) : List Char :=
  if -4 < decimal.point ∧ decimal.point ≤ 16 then positional decimal else scientific decimal

def signed (negative : Bool) (text : List Char) : List Char :=
  if negative then '-' :: text else text

def write (infinity nan : List Char) : Binary64 → List Char
  | .finite negative magnitude exponent =>
    signed negative (decimalText (shortest magnitude exponent))
  | .infinite negative => signed negative infinity
  | .nan => nan

def display (x : Binary64) : List Char := write "inf".toList "nan".toList x

def jsonText (x : Binary64) : List Char := write "Infinity".toList "NaN".toList x

end Pushbutton.Binary64
