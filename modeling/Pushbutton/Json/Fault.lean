import Pushbutton.Text.Digit

/-! What is wrong with a text that is not JSON, and where. -/

set_option autoImplicit false

namespace Pushbutton.Json

inductive Problem where
  | expectedValue
  | expectedName
  | expectedColon
  | expectedComma
  | extraData
  | unterminatedString
  | controlCharacter
  | badEscape
  | badUnicodeEscape
  | byteOrderMark
  deriving DecidableEq, Repr

def Problem.message : Problem → String
  | .expectedValue => "Expecting value"
  | .expectedName => "Expecting property name enclosed in double quotes"
  | .expectedColon => "Expecting ':' delimiter"
  | .expectedComma => "Expecting ',' delimiter"
  | .extraData => "Extra data"
  | .unterminatedString => "Unterminated string starting at"
  | .controlCharacter => "Invalid control character at"
  | .badEscape => "Invalid \\escape"
  | .badUnicodeEscape => "Invalid \\uXXXX escape"
  | .byteOrderMark => "Unexpected UTF-8 BOM (decode using utf-8-sig)"

/-- A text is refused at a character, or because it holds a whole number of too many digits. -/
inductive Fault where
  | malformed (problem : Problem) (before : List CodePoint)
  | oversizedInteger (digits : Nat)
  deriving DecidableEq, Repr

def lineAndColumn (before : List CodePoint) : Nat × Nat :=
  before.foldl (fun (line, column) c => if c = .char '\n' then (line + 1, 1) else (line, column + 1)) (1, 1)

def Problem.describe (problem : Problem) (before : List CodePoint) : String :=
  let (line, column) := lineAndColumn before
  problem.message ++ ": line " ++ Text.natText line ++ " column " ++ Text.natText column ++
    " (char " ++ Text.natText before.length ++ ")"

def oversizedMessage (digits : Nat) : String :=
  "Exceeds the limit (4300 digits) for integer string conversion: value has " ++
    Text.natText digits ++ " digits; use sys.set_int_max_str_digits() to increase the limit"

def Fault.message : Fault → String
  | .malformed problem before => problem.describe before
  | .oversizedInteger digits => oversizedMessage digits

end Pushbutton.Json
