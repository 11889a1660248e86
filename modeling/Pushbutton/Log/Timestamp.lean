import Pushbutton.Binary64.Text
import Pushbutton.Word

/-! Moments as dates and times of the day in universal time. -/

set_option autoImplicit false

namespace Pushbutton

inductive TimeFault where
  | yearOutOfRange (year : Int)
  | beyondClock
  | beyondWord
  | notNumber
  | infinite
  deriving DecidableEq, Repr

def TimeFault.kind : TimeFault → String
  | .yearOutOfRange _ | .notNumber => "ValueError"
  | .beyondClock => "OSError"
  | .beyondWord | .infinite => "OverflowError"

def TimeFault.message : TimeFault → String
  | .yearOutOfRange year => "year " ++ Text.intText year ++ " is out of range"
  | .beyondClock => "[Errno 75] Value too large for defined data type"
  | .beyondWord => "timestamp out of range for platform time_t"
  | .notNumber => "Invalid value NaN (not a number)"
  | .infinite => "cannot convert float infinity to integer"

namespace Timestamp

def civil (day : Int) : Int × Nat × Nat :=
  -- years start in March, so that the leap day is the last of its year
  let shifted := day + 719468
  let era := Int.fdiv shifted 146097
  let dayOfEra := (shifted - era * 146097).toNat
  let yearOfEra := (dayOfEra - dayOfEra / 1460 + dayOfEra / 36524 - dayOfEra / 146096) / 365
  let dayOfYear := dayOfEra - (365 * yearOfEra + yearOfEra / 4 - yearOfEra / 100)
  let shiftedMonth := (5 * dayOfYear + 2) / 153
  let dayOfMonth := dayOfYear - (153 * shiftedMonth + 2) / 5 + 1
  let month := if shiftedMonth < 10 then shiftedMonth + 3 else shiftedMonth - 9
  let year : Int := yearOfEra + era * 400 + (if month ≤ 2 then 1 else 0)
  (year, month, dayOfMonth)

def digits (width n : Nat) : List Char :=
  let digits := Text.natDigits n
  List.replicate (width - digits.length) '0' ++ digits

/-- Whole seconds and millionths. The fraction is scaled in binary numbers and then rounded, half
to even. -/
def split : Binary64 → Except TimeFault (Int × Nat)
  | .nan => .error .notNumber
  | .infinite _ => .error .infinite
  | .finite negative magnitude exponent =>
    let (n, d) := Binary64.fraction magnitude exponent
    let whole := n / d
    let millionths :=
      match Binary64.ofRatio false ((n % d) * 1000000) d with
      | .finite _ m e =>
        let (n, d) := Binary64.fraction m e
        Binary64.roundDiv n d
      | _ => 0
    let total : Int := whole * 1000000 + millionths
    let total := if negative then -total else total
    .ok (Int.fdiv total 1000000, (Int.fmod total 1000000).toNat)

/-- The fraction of a second is left out when it is zero. -/
def text (seconds : Int) (millionths : Nat) : Except TimeFault (List Char) :=
  if !isWord seconds then .error .beyondWord
  else
    let (year, month, day) := civil (Int.fdiv seconds 86400)
    let second := (Int.fmod seconds 86400).toNat
    -- the clock counts years from 1900 in half a machine word
    if !isHalfWord (year - 1900) then .error .beyondClock
    else if year < 1 ∨ 9999 < year then .error (.yearOutOfRange year)
    else
      .ok (digits 4 year.toNat ++ '-' :: digits 2 month ++ '-' :: digits 2 day ++ 'T' ::
        digits 2 (second / 3600) ++ ':' :: digits 2 (second / 60 % 60) ++ ':' ::
        digits 2 (second % 60) ++
        (if millionths = 0 then [] else '.' :: digits 6 millionths) ++ "+00:00".toList)

def ofSeconds (moment : Binary64) : Except TimeFault (List Char) := do
  let (seconds, millionths) ← split moment
  text seconds millionths

end Timestamp

end Pushbutton
