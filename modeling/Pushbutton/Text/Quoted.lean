import Pushbutton.Text.Digit
import Pushbutton.Text.Printable

/-! Text in quotes, with every character that is not shown as it is spelled out. -/

set_option autoImplicit false

namespace Pushbutton.Text

/-- The double quote is used only for a text that holds a single quote and no double quote. -/
def quoteFor (text : List CodePoint) : Char :=
  if text.contains '\'' && !text.contains '"' then '"' else '\''

def spelled (quote : Char) : CodePoint → List Char
  | .half unit => '\\' :: 'u' :: hexDigits 4 unit.code
  | .char c =>
    if c = quote ∨ c = '\\' then ['\\', c]
    else if c = '\t' then ['\\', 't']
    else if c = '\n' then ['\\', 'n']
    else if c = '\r' then ['\\', 'r']
    else if isPrintable c then [c]
    else if c.toNat < 0x100 then '\\' :: 'x' :: hexDigits 2 c.toNat
    else if c.toNat < 0x10000 then '\\' :: 'u' :: hexDigits 4 c.toNat
    else '\\' :: 'U' :: hexDigits 8 c.toNat

def quote (text : List CodePoint) : List Char :=
  let mark := quoteFor text
  mark :: (text.flatMap (spelled mark) ++ [mark])

def quoted (text : Text) : String := String.ofList (quote text.toList)

end Pushbutton.Text
