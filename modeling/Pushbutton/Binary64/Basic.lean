/-! Binary floating-point numbers of 64 bits, as exact dyadic fractions, and the rounding of a quotient
to the nearest of them. -/

set_option autoImplicit false

namespace Pushbutton

/-- A finite number is its magnitude times a power of two. `ofRatio` gives the magnitude fewer than
54 bits, and exactly 53 unless the exponent is the least one. -/
inductive Binary64 where
  | finite (negative : Bool) (magnitude : Nat) (exponent : Int)
  | infinite (negative : Bool)
  | nan
  deriving DecidableEq, Repr

namespace Binary64

def leastExponent : Int := -1074

def greatestExponent : Int := 971

def leastFull : Nat := 0x10000000000000

def roundDiv (numerator denominator : Nat) : Nat :=
  let quotient := numerator / denominator
  let twice := 2 * (numerator % denominator)
  if twice < denominator then quotient
  else if twice = denominator then quotient + quotient % 2
  else quotient + 1

def scaled (numerator denominator : Nat) (exponent : Int) : Nat × Nat :=
  match exponent with
  | .ofNat n => (numerator <<< n, denominator)
  | .negSucc n => (numerator, denominator <<< (n + 1))

/-- The exponent at which the quotient has 53 bits before its point, or the least one. -/
def exponentOf (numerator denominator : Nat) : Int :=
  let guess : Int := (Nat.log2 numerator : Int) - (Nat.log2 denominator : Int) - 52
  let (n, d) := scaled numerator denominator (-guess)
  max leastExponent (if n < leastFull * d then guess - 1 else guess)

/-- The number nearest to a quotient; half goes to the even neighbour. -/
def ofRatio (negative : Bool) (numerator denominator : Nat) : Binary64 :=
  if numerator = 0 then .finite negative 0 leastExponent
  else
    let exponent := exponentOf numerator denominator
    let (n, d) := scaled numerator denominator (-exponent)
    let magnitude := roundDiv n d
    let (magnitude, exponent) :=
      -- rounding up can give a bit more than fits
      if magnitude = 2 * leastFull then (leastFull, exponent + 1) else (magnitude, exponent)
    if exponent > greatestExponent then .infinite negative
    else .finite negative magnitude exponent

/-- The number nearest to `digits * 10 ^ exponent`, where `count` is the number of the digits. -/
def ofDecimal (negative : Bool) (digits count : Nat) (exponent : Int) : Binary64 :=
  if digits = 0 then .finite negative 0 leastExponent
  -- far out of range the power of ten is not worked out
  else if exponent + count > 400 then .infinite negative
  else if exponent + count < -400 then .finite negative 0 leastExponent
  else
    match exponent with
    | .ofNat n => ofRatio negative (digits * Nat.pow 10 n) 1
    | .negSucc n => ofRatio negative digits (Nat.pow 10 (n + 1))

def ofInt (n : Int) : Binary64 := ofRatio (decide (n < 0)) n.natAbs 1

def fraction (magnitude : Nat) (exponent : Int) : Nat × Nat := scaled magnitude 1 exponent

def toInt? : Binary64 → Option Int
  | .finite negative magnitude exponent =>
    let (n, d) := fraction magnitude exponent
    if n % d = 0 then some (if negative then -((n / d : Nat) : Int) else ((n / d : Nat) : Int))
    else none
  | _ => none

end Binary64

end Pushbutton
