import Pushbutton.Binary64.Basic
import Pushbutton.Text.Blank
import Pushbutton.Text.Digit

/-! The fewest decimal digits that read back as a given binary number. -/

set_option autoImplicit false

namespace Pushbutton.Binary64

/-- A positive decimal fraction `0.d₁d₂… * 10 ^ point`. -/
structure Decimal where
  digits : List Char
  point : Int
  deriving DecidableEq, Repr

/-- How many digits stand before the point of a quotient; zero or less when it is below one. -/
def integerDigits (numerator denominator : Nat) : Int :=
  if denominator ≤ numerator then (Text.natDigits (numerator / denominator)).length
  else
    -- the least count of zeros after which a digit other than zero comes
    let quotient := denominator / numerator
    let zeros := (Text.natDigits quotient).length
    if denominator ≤ numerator * Nat.pow 10 (zeros - 1) then 2 - (zeros : Int) else 1 - (zeros : Int)

def inUnits (numerator denominator : Nat) (exponent : Int) : Nat × Nat :=
  match exponent with
  | .ofNat n => (numerator, denominator * Nat.pow 10 n)
  | .negSucc n => (numerator * Nat.pow 10 (n + 1), denominator)

def readBack (units : Nat) (exponent : Int) : Binary64 :=
  ofDecimal false units (Text.natDigits units).length exponent

/-- Of the two decimals of `count` digits next to the number, the nearer one that reads back. -/
def shortestAt? (value : Binary64) (numerator denominator count : Nat) : Option (Nat × Int) :=
  let exponent := integerDigits numerator denominator - count
  let (n, d) := inUnits numerator denominator exponent
  let below := n / d
  let above := below + 1
  let nearest := roundDiv n d
  -- numbers lie closer below a power of two than above it, so the nearer decimal alone does not decide
  let other := if nearest = below then above else below
  if readBack nearest exponent = value then some (nearest, exponent)
  else if readBack other exponent = value then some (other, exponent)
  else none

def shortestFrom (value : Binary64) (numerator denominator : Nat) : Nat → Nat → Nat × Int
  | 0, count =>
    let exponent := integerDigits numerator denominator - count
    let (n, d) := inUnits numerator denominator exponent
    (roundDiv n d, exponent)
  | fuel + 1, count =>
    match shortestAt? value numerator denominator count with
    | some found => found
    | none => shortestFrom value numerator denominator fuel (count + 1)

/-- The shortest decimal that reads back as a finite number; seventeen digits always do. -/
def shortest (magnitude : Nat) (exponent : Int) : Decimal :=
  if magnitude = 0 then ⟨['0'], 1⟩
  else
    let (n, d) := fraction magnitude exponent
    let (units, exponent) := shortestFrom (.finite false magnitude exponent) n d 16 1
    let digits := Text.natDigits units
    ⟨Text.trimEnd (· == '0') digits, exponent + digits.length⟩

end Pushbutton.Binary64
