import Pushbutton.Json.Basic
import Pushbutton.Json.Fault
import Pushbutton.Text.Integer

/-! Reading JSON texts. A reader takes the characters ahead and gives a value with the characters after it. -/

set_option autoImplicit false

namespace Pushbutton.Json

inductive ReadFault where
  | problem (problem : Problem) (ahead : List CodePoint)
  | oversizedInteger (digits : Nat)
  deriving DecidableEq, Repr

abbrev Reading (α : Type) := Except ReadFault (α × List CodePoint)

def isSpace (c : CodePoint) : Bool := c == ' ' || c == '\t' || c == '\n' || c == '\r'

def skip (text : List CodePoint) : List CodePoint := text.dropWhile isSpace

def escaped? : CodePoint → Option Char
  | .char '"' => some '"'
  | .char '\\' => some '\\'
  | .char '/' => some '/'
  | .char 'b' => some '\x08'
  | .char 'f' => some '\x0c'
  | .char 'n' => some '\n'
  | .char 'r' => some '\r'
  | .char 't' => some '\t'
  | _ => none

def hexUnit? (a b c d : CodePoint) : Option Nat := do
  let a ← a.char?.bind Text.hexValue?
  let b ← b.char?.bind Text.hexValue?
  let c ← c.char?.bind Text.hexValue?
  let d ← d.char?.bind Text.hexValue?
  return ((a * 16 + b) * 16 + c) * 16 + d

def isHighSurrogate (unit : Nat) : Bool := 0xD800 ≤ unit && unit < 0xDC00

def isLowSurrogate (unit : Nat) : Bool := 0xDC00 ≤ unit && unit < 0xE000

/-- A part of a string: a code point that stands there, or a unit that is spelled in four digits. -/
inductive Piece where
  | plain (c : CodePoint)
  | unit (n : Nat)
  deriving DecidableEq, Repr

/-- Two units that are the halves of a pair make one character. Halves that stand there themselves do not join. -/
def joinPairs : List Piece → List CodePoint
  | [] => []
  | .plain c :: rest => c :: joinPairs rest
  | .unit high :: .unit low :: rest =>
    if isHighSurrogate high && isLowSurrogate low then
      .ofNat (0x10000 + (high - 0xD800) * 0x400 + (low - 0xDC00)) :: joinPairs rest
    -- the next unit can still be the start of a pair
    else .ofNat high :: joinPairs (.unit low :: rest)
  | .unit n :: rest => .ofNat n :: joinPairs rest

/-- The rest of a string after its opening quote, which `opening` starts with. -/
def readPieces (opening : List CodePoint) : List CodePoint → Reading (List Piece)
  | [] => .error (.problem .unterminatedString opening)
  | .char '"' :: rest => .ok ([], rest)
  | [.char '\\'] => .error (.problem .unterminatedString opening)
  -- four digits at the very end of a text are faulted as an escape, before the missing quote is
  | .char '\\' :: .char 'u' :: a :: b :: c :: d :: next :: rest =>
    match hexUnit? a b c d with
    | some unit => (readPieces opening (next :: rest)).map fun (pieces, rest) => (.unit unit :: pieces, rest)
    | none => .error (.problem .badUnicodeEscape ('u' :: a :: b :: c :: d :: next :: rest))
  | .char '\\' :: .char 'u' :: rest => .error (.problem .badUnicodeEscape ('u' :: rest))
  | .char '\\' :: c :: rest =>
    match escaped? c with
    | some meant => (readPieces opening rest).map fun (pieces, rest) => (.plain meant :: pieces, rest)
    | none => .error (.problem .badEscape ('\\' :: c :: rest))
  | c :: rest =>
    if c.toNat < 0x20 then .error (.problem .controlCharacter (c :: rest))
    else (readPieces opening rest).map fun (pieces, rest) => (.plain c :: pieces, rest)

def readString (opening rest : List CodePoint) : Reading Text :=
  (readPieces opening rest).map fun (pieces, rest) => (.ofList (joinPairs pieces), rest)

def readFraction : List CodePoint → List Char × List CodePoint
  | .char '.' :: rest =>
    match Text.spanDigits rest with
    | ([], _) => ([], '.' :: rest)
    | (digits, rest) => (digits, rest)
  | text => ([], text)

def readExponent : List CodePoint → Option Int × List CodePoint
  | e :: rest =>
    if e = 'e' ∨ e = 'E' then
      let (negative, unsigned) :=
        match rest with
        | .char '-' :: rest => (true, rest)
        | .char '+' :: rest => (false, rest)
        | rest => (false, rest)
      match Text.spanDigits unsigned with
      | ([], _) => (none, e :: rest)
      | (digits, after) =>
        -- beyond this many digits every number is zero or infinite
        let size : Int := if digits.length > 4300 then 1000000000 else (Text.ofDigits digits : Int)
        (some (if negative then -size else size), after)
    else (none, e :: rest)
  | [] => (none, [])

def wholeNumber (negative : Bool) (digits : List Char) (rest : List CodePoint) : Reading Json :=
  if digits.length > Text.digitLimit then .error (.oversizedInteger digits.length)
  else .ok (.int (if negative then -(Text.ofDigits digits : Int) else Text.ofDigits digits), rest)

def readNumber (negative : Bool) (whole : List Char) (rest : List CodePoint) : Reading Json :=
  let (fraction, afterFraction) := readFraction rest
  let (exponent?, afterExponent) := readExponent afterFraction
  -- a point or the letter of an exponent without digits after it belongs to what follows
  if fraction.isEmpty && exponent?.isNone then wholeNumber negative whole rest
  else
    let digits := whole ++ fraction
    .ok (.float (.ofDecimal negative (Text.ofDigits digits)
      (Text.natDigits (Text.ofDigits digits)).length (exponent?.getD 0 - fraction.length)), afterExponent)

def readWhole (text : List CodePoint) : Option (List Char × List CodePoint) :=
  match Text.spanDigits text with
  | ([], _) => none
  | ('0' :: _, _) => some (['0'], text.tail)
  | (digits, rest) => some (digits, rest)

def readWord (text : List CodePoint) : Reading Json :=
  match text with
  | .char 'n' :: .char 'u' :: .char 'l' :: .char 'l' :: rest => .ok (.null, rest)
  | .char 't' :: .char 'r' :: .char 'u' :: .char 'e' :: rest => .ok (.bool true, rest)
  | .char 'f' :: .char 'a' :: .char 'l' :: .char 's' :: .char 'e' :: rest => .ok (.bool false, rest)
  | .char 'N' :: .char 'a' :: .char 'N' :: rest => .ok (.float .nan, rest)
  | .char 'I' :: .char 'n' :: .char 'f' :: .char 'i' :: .char 'n' :: .char 'i' :: .char 't' :: .char 'y' :: rest =>
    .ok (.float (.infinite false), rest)
  | .char '-' :: .char 'I' :: .char 'n' :: .char 'f' :: .char 'i' :: .char 'n' :: .char 'i' :: .char 't' :: .char 'y' ::
      rest =>
    .ok (.float (.infinite true), rest)
  | .char '-' :: unsigned =>
    match readWhole unsigned with
    | some (whole, rest) => readNumber true whole rest
    | none => .error (.problem .expectedValue text)
  | unsigned =>
    match readWhole unsigned with
    | some (whole, rest) => readNumber false whole rest
    | none => .error (.problem .expectedValue text)

mutual

def readValue : Nat → List CodePoint → Reading Json
  | 0, text => .error (.problem .expectedValue text)
  | fuel + 1, text =>
    match text with
    | .char '"' :: rest => (readString text rest).map fun (value, rest) => (.str value, rest)
    | .char '[' :: rest =>
      match skip rest with
      | .char ']' :: rest => .ok (.arr [], rest)
      | rest => (readItems fuel rest).map fun (items, rest) => (.arr items, rest)
    | .char '{' :: rest =>
      match skip rest with
      | .char '}' :: rest => .ok (.obj [], rest)
      | rest => (readMembers fuel [] rest).map fun (members, rest) => (.obj members, rest)
    | text => readWord text

def readItems : Nat → List CodePoint → Except ReadFault (List Json × List CodePoint)
  | 0, text => .error (.problem .expectedValue text)
  | fuel + 1, text => do
    let (item, rest) ← readValue fuel text
    match skip rest with
    | .char ']' :: rest => return ([item], rest)
    | .char ',' :: rest =>
      let (items, rest) ← readItems fuel (skip rest)
      return (item :: items, rest)
    | rest => .error (.problem .expectedComma rest)

/-- The members still ahead, added to the ones read; a name that comes again takes its last value. -/
def readMembers : Nat → Table Text Json → List CodePoint → Except ReadFault (Table Text Json × List CodePoint)
  | 0, _, text => .error (.problem .expectedName text)
  | fuel + 1, members, text =>
    match text with
    | .char '"' :: rest => do
      let (name, rest) ← readString text rest
      match skip rest with
      | .char ':' :: rest =>
        let (value, rest) ← readValue fuel (skip rest)
        match skip rest with
        | .char '}' :: rest => return (members.put name value, rest)
        | .char ',' :: rest => readMembers fuel (members.put name value) (skip rest)
        | rest => .error (.problem .expectedComma rest)
      | rest => .error (.problem .expectedColon rest)
    | text => .error (.problem .expectedName text)

end

/-- Enough for every text of this many characters: each call but one in two takes a character. -/
def fuelFor (length : Nat) : Nat := 2 * length + 1

def readAll (text : List CodePoint) : Except ReadFault Json := do
  let (value, rest) ← readValue (fuelFor text.length) (skip text)
  match skip rest with
  | [] => return value
  | rest => .error (.problem .extraData rest)

def parse (text : Text) : Except Fault Json :=
  let characters := text.toList
  match characters with
  | .char '\uFEFF' :: _ => .error (.malformed .byteOrderMark [])
  | _ =>
    match readAll characters with
    | .ok value => .ok value
    | .error (.oversizedInteger digits) => .error (.oversizedInteger digits)
    | .error (.problem problem ahead) =>
      .error (.malformed problem (characters.take (characters.length - ahead.length)))

end Pushbutton.Json
