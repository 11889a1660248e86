import Pushbutton.Binary64.Rounded
import Pushbutton.Json.Display
import Pushbutton.Word

/-! Texts with placeholders: a percent sign, how to write a value, and the letter of a conversion. -/

set_option autoImplicit false

namespace Pushbutton.Placeholder

/-- The values that fill a text: some in order, or a single one. An object alone can be asked for its
members, and need not be used up. -/
inductive Values where
  | ordered (values : List Json)
  | single (value : Json)
  deriving Repr

inductive Fault where
  | tooFewValues
  | tooManyValues
  | unknownConversion (letter : CodePoint) (index : Nat)
  | incomplete
  | incompleteName
  | namesUnavailable
  | unknownName (name : Text)
  | notPosition
  | widthNotInteger
  | widthTooLarge
  | precisionTooLarge
  | valueBeyondWord
  | valueBeyondHalfWord
  | outOfMemory
  | notNumber (letter : Char) (given : Json)
  | notInteger (letter : Char) (given : Json)
  | notReal (given : Json)
  | integerTooLarge
  | infiniteInteger
  | nanInteger
  | notCharacter
  | characterOutOfRange
  deriving Repr

def typeName : Json → String
  | .null => "NoneType"
  | .bool _ => "bool"
  | .int _ => "int"
  | .float _ => "float"
  | .str _ => "str"
  | .arr _ => "list"
  | .obj _ => "dict"

def Fault.kind : Fault → String
  | .tooFewValues | .tooManyValues | .namesUnavailable | .notPosition | .widthNotInteger | .notNumber _ _
  | .notInteger _ _ | .notReal _ | .notCharacter => "TypeError"
  | .unknownConversion _ _ | .incomplete | .incompleteName | .widthTooLarge | .precisionTooLarge
  | .nanInteger => "ValueError"
  | .unknownName _ => "KeyError"
  | .integerTooLarge | .infiniteInteger | .characterOutOfRange | .valueBeyondWord
  | .valueBeyondHalfWord => "OverflowError"
  | .outOfMemory => "MemoryError"

def Fault.message : Fault → String
  | .tooFewValues => "not enough arguments for format string"
  | .tooManyValues => "not all arguments converted during string formatting"
  | .unknownConversion letter index =>
    let shown :=
      match letter with
      | .char c => if 31 < c.toNat ∧ c.toNat < 127 then c else '?'
      | .half _ => '?'
    "unsupported format character '" ++ String.singleton shown ++ "' (0x" ++
      String.ofList (Text.hexPadded 1 letter.toNat) ++ ") at index " ++ Text.natText index
  | .incomplete => "incomplete format"
  | .incompleteName => "incomplete format key"
  | .namesUnavailable => "format requires a mapping"
  | .unknownName name => Text.quoted name
  | .notPosition => "list indices must be integers or slices, not str"
  | .widthNotInteger => "* wants int"
  | .widthTooLarge => "width too big"
  | .precisionTooLarge => "precision too big"
  | .valueBeyondWord => "Python int too large to convert to C ssize_t"
  | .valueBeyondHalfWord => "Python int too large to convert to C int"
  | .outOfMemory => ""
  | .notNumber letter given =>
    "%" ++ String.singleton letter ++ " format: a real number is required, not " ++ typeName given
  | .notInteger letter given =>
    "%" ++ String.singleton letter ++ " format: an integer is required, not " ++ typeName given
  | .notReal given => "must be real number, not " ++ typeName given
  | .integerTooLarge => "int too large to convert to float"
  | .infiniteInteger => "cannot convert float infinity to integer"
  | .nanInteger => "cannot convert float NaN to integer"
  | .notCharacter => "%c requires int or char"
  | .characterOutOfRange => "%c arg not in range(0x110000)"

structure Flags where
  left : Bool := false
  plus : Bool := false
  blank : Bool := false
  alternate : Bool := false
  zero : Bool := false

structure Supply where
  values : List Json
  whole : Option Json

def Supply.of : Values → Supply
  | .ordered values => ⟨values, none⟩
  | .single (.obj members) => ⟨[.obj members], some (.obj members)⟩
  | .single (.arr items) => ⟨[.arr items], some (.arr items)⟩
  | .single value => ⟨[value], none⟩

def Supply.next (supply : Supply) : Except Fault (Json × Supply) :=
  match supply.values with
  | value :: rest => .ok (value, { supply with values := rest })
  | [] => .error .tooFewValues

def Supply.select (supply : Supply) (name : Text) : Except Fault Supply :=
  match supply.whole with
  | some (.obj members) =>
    match Table.get? members name with
    | some value => .ok { supply with values := [value] }
    | none => .error (.unknownName name)
  | some _ => .error .notPosition
  | none => .error .namesUnavailable

def plain : Json → List CodePoint
  | .str text => text.toList
  | other => other.display.map .char

def asciiOnly (text : List Char) : List Char :=
  text.flatMap fun c =>
    if c.toNat < 128 then [c]
    else if c.toNat < 0x100 then '\\' :: 'x' :: Text.hexDigits 2 c.toNat
    else if c.toNat < 0x10000 then '\\' :: 'u' :: Text.hexDigits 4 c.toNat
    else '\\' :: 'U' :: Text.hexDigits 8 c.toNat

def integerOf (letter : Char) : Json → Except Fault Int
  | .int n => .ok n
  | .bool b => .ok (if b then 1 else 0)
  | .float (.infinite _) => .error .infiniteInteger
  | .float .nan => .error .nanInteger
  | .float (.finite negative magnitude exponent) =>
    let (n, d) := Binary64.fraction magnitude exponent
    .ok (if negative then -((n / d : Nat) : Int) else ((n / d : Nat) : Int))
  | other => .error (.notNumber letter other)

def exactIntegerOf (letter : Char) : Json → Except Fault Int
  | .int n => .ok n
  | .bool b => .ok (if b then 1 else 0)
  | other => .error (.notInteger letter other)

def realOf : Json → Except Fault Binary64
  | .float x => .ok x
  | .int n =>
    match Binary64.ofInt n with
    | .infinite _ => .error .integerTooLarge
    | x => .ok x
  | .bool b => .ok (Binary64.ofInt (if b then 1 else 0))
  | other => .error (.notReal other)

def upper (text : List Char) : List Char := text.map Char.toUpper

def octalDigits (n : Nat) : List Char := Nat.toDigits 8 n

def padded (width : Nat) (left : Bool) (fill : Char) (sign : List Char) (body : List CodePoint) :
    List CodePoint :=
  let sign : List CodePoint := sign.map .char
  let missing := width - (sign.length + body.length)
  if left then sign ++ body ++ List.replicate missing (.char ' ')
  else if fill = '0' then sign ++ List.replicate missing (.char '0') ++ body
  else List.replicate missing (.char ' ') ++ sign ++ body

def signFor (flags : Flags) (negative : Bool) : List Char :=
  if negative then ['-'] else if flags.plus then ['+'] else if flags.blank then [' '] else []

def writeInteger (flags : Flags) (width : Nat) (precision? : Option Nat) (letter : Char) (n : Int) :
    List CodePoint :=
  let digits :=
    if letter = 'x' ∨ letter = 'X' then Text.hexPadded 1 n.natAbs
    else if letter = 'o' then octalDigits n.natAbs
    else Text.natDigits n.natAbs
  let digits := Binary64.zeros (precision?.getD 0 - digits.length) ++ digits
  let digits := if letter = 'X' then upper digits else digits
  let base :=
    if flags.alternate && (letter == 'x' || letter == 'X' || letter == 'o') then ['0', letter]
    else []
  padded width flags.left (if flags.zero then '0' else ' ')
    (signFor flags (decide (n < 0)) ++ base) (digits.map .char)

def writeReal (flags : Flags) (width : Nat) (precision? : Option Nat) (letter : Char)
    (x : Binary64) : List CodePoint :=
  let lower := letter.toLower
  let layout :=
    if lower = 'f' then Binary64.Layout.fixed
    else if lower = 'e' then .scientific
    else .general
  let text := Binary64.roundedText layout (precision?.getD 6) flags.alternate x
  let (negative, text) :=
    match text with
    | '-' :: rest => (true, rest)
    | text => (false, text)
  let text := if letter = lower then text else upper text
  padded width flags.left (if flags.zero then '0' else ' ') (signFor flags negative) (text.map .char)

def characterOf : Json → Except Fault CodePoint
  | .str text =>
    match text.toList with
    | [c] => .ok c
    | _ => .error .notCharacter
  | .int n =>
    if 0 ≤ n ∧ n < 0x110000 then .ok (.ofNat n.toNat) else .error .characterOutOfRange
  | .bool b => .ok (.ofNat (if b then 1 else 0))
  | _ => .error .notCharacter

def convertAs (flags : Flags) (width : Nat) (precision? : Option Nat) (letter : Char) (index : Nat)
    (value : Json) : Except Fault (List CodePoint) :=
  let text (characters : List CodePoint) : List CodePoint :=
    padded width flags.left ' ' []
      (match precision? with
        | some precision => characters.take precision
        | none => characters)
  match letter with
  | 's' => .ok (text (plain value))
  | 'r' => .ok (text (value.display.map .char))
  | 'a' => .ok (text ((asciiOnly value.display).map .char))
  | 'd' | 'i' | 'u' => (integerOf letter value).map (writeInteger flags width precision? letter)
  | 'o' | 'x' | 'X' => (exactIntegerOf letter value).map (writeInteger flags width precision? letter)
  | 'e' | 'E' | 'f' | 'F' | 'g' | 'G' => (realOf value).map (writeReal flags width precision? letter)
  | 'c' => (characterOf value).map fun c => padded width flags.left ' ' [] [c]
  | _ => .error (.unknownConversion letter index)

def convert (flags : Flags) (width : Nat) (precision? : Option Nat) (letter : CodePoint) (index : Nat)
    (value : Json) : Except Fault (List CodePoint) :=
  match letter with
  | .char letter => convertAs flags width precision? letter index value
  | .half _ => .error (.unknownConversion letter index)

def readName : Nat → List CodePoint → Except Fault (List CodePoint × List CodePoint)
  | _, [] => .error .incompleteName
  | depth, c :: rest =>
    if c = .char ')' then
      match depth with
      | 0 => .ok ([], rest)
      | depth + 1 => (readName depth rest).map fun (name, rest) => (c :: name, rest)
    else
      (readName (if c = .char '(' then depth + 1 else depth) rest).map fun (name, rest) =>
        (c :: name, rest)

def readFlags (flags : Flags) : List CodePoint → Flags × List CodePoint
  | .char '-' :: rest => readFlags { flags with left := true } rest
  | .char '+' :: rest => readFlags { flags with plus := true } rest
  | .char ' ' :: rest => readFlags { flags with blank := true } rest
  | .char '#' :: rest => readFlags { flags with alternate := true } rest
  | .char '0' :: rest => readFlags { flags with zero := true } rest
  | rest => (flags, rest)

structure CountRule where
  holds : Int → Bool
  tooLarge : Fault
  valueTooLarge : Fault

def widthRule : CountRule := ⟨isWord, .widthTooLarge, .valueBeyondWord⟩

def precisionRule : CountRule := ⟨isHalfWord, .precisionTooLarge, .valueBeyondHalfWord⟩

def readCount (rule : CountRule) (supply : Supply) (text : List CodePoint) :
    Except Fault (Int × Supply × List CodePoint) :=
  match text with
  | .char '*' :: rest => do
    let (value, supply) ← supply.next
    match value with
    | .int n => if rule.holds n then return (n, supply, rest) else .error rule.valueTooLarge
    | .bool b => return ((if b then 1 else 0), supply, rest)
    | _ => .error .widthNotInteger
  | text =>
    let (digits, rest) := Text.spanDigits text
    let count := Text.ofDigits digits
    if rule.holds count then .ok (count, supply, rest) else .error rule.tooLarge

def readPrecision (supply : Supply) (text : List CodePoint) :
    Except Fault (Option Nat × Supply × List CodePoint) :=
  match text with
  | .char '.' :: rest => do
    let (count, supply, rest) ← readCount precisionRule supply rest
    return (some count.toNat, supply, rest)
  | text => .ok (none, supply, text)

def widthLimit : Nat := 0x10000000000

def skipSize : List CodePoint → List CodePoint
  | .char 'h' :: rest | .char 'l' :: rest | .char 'L' :: rest => rest
  | text => text

def fillOne (total : Nat) (supply : Supply) (text : List CodePoint) :
    Except Fault (List CodePoint × Supply × List CodePoint) := do
  let (supply, text) ←
    match text with
    | .char '(' :: rest =>
      if supply.whole.isNone then .error .namesUnavailable
      else do
        let (name, rest) ← readName 0 rest
        pure (← supply.select (.ofList name), rest)
    | text => pure (supply, text)
  let (flags, text) := readFlags {} text
  let (width, supply, text) ← readCount widthRule supply text
  -- a width that is taken from the values can be negative, and asks for the left side then
  let flags := if width < 0 then { flags with left := true } else flags
  let (precision?, supply, text) ← readPrecision supply text
  match skipSize text with
  | [] => .error .incomplete
  | letter :: rest =>
    let (value, supply) ← supply.next
    let width := width.natAbs
    -- a value that cannot be converted is found before there is no room for it
    let written ← convert flags (if width < widthLimit then width else 0) precision? letter
      (total - rest.length - 1) value
    if width < widthLimit then return (written, supply, rest) else .error .outOfMemory

/-- A text of `total` characters in all, with its placeholders filled. -/
def fillFrom (total : Nat) : Nat → Supply → List CodePoint → Except Fault (List CodePoint)
  | 0, _, _ => .ok []
  | _, supply, [] =>
    if supply.whole.isNone && !supply.values.isEmpty then .error .tooManyValues else .ok []
  | fuel + 1, supply, c :: rest =>
    if c = .char '%' ∧ rest.head? = some (.char '%') then do
      return .char '%' :: (← fillFrom total fuel supply rest.tail)
    else if c = .char '%' then do
      let (written, supply, rest) ← fillOne total supply rest
      return written ++ (← fillFrom total fuel supply rest)
    else do
      return c :: (← fillFrom total fuel supply rest)

def fill (text : Text) (values : Values) : Except Fault Text :=
  let characters := text.toList
  (fillFrom characters.length (characters.length + 1) (.of values) characters).map .ofList

end Pushbutton.Placeholder
