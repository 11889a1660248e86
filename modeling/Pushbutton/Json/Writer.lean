import Pushbutton.Binary64.Text
import Pushbutton.Json.Basic

/-! Writing JSON texts: on one line, or with every item on a line of its own. -/

set_option autoImplicit false

namespace Pushbutton.Json

/-- Quotes, backslashes and control characters are escaped, and nothing else is. -/
def escape (c : CodePoint) : List CodePoint :=
  if c = '"' then ['\\', '"']
  else if c = '\\' then ['\\', '\\']
  else if c = '\n' then ['\\', 'n']
  else if c = '\r' then ['\\', 'r']
  else if c = '\t' then ['\\', 't']
  else if c = '\x0c' then ['\\', 'f']
  else if c = '\x08' then ['\\', 'b']
  else if c.toNat < 0x20 then '\\' :: 'u' :: (Text.hexDigits 4 c.toNat).map .char
  else [c]

def writeString (text : Text) : List CodePoint := '"' :: (text.toList.flatMap escape ++ [.char '"'])

def writeScalar : Json → List CodePoint
  | .null => ("null" : Text).toList
  | .bool true => ("true" : Text).toList
  | .bool false => ("false" : Text).toList
  | .int value => (Text.intDigits value).map .char
  | .float value => value.jsonText.map .char
  | .str value => writeString value
  | .arr _ => []
  | .obj _ => []

mutual

def write : Json → List CodePoint
  | .arr [] => ['[', ']']
  | .arr (item :: items) => '[' :: (write item ++ writeItems items)
  | .obj [] => ['\x7b', '\x7d']
  | .obj (member :: members) => '\x7b' :: (writeMember member ++ writeMembers members)
  | .null => writeScalar .null
  | .bool value => writeScalar (.bool value)
  | .int value => writeScalar (.int value)
  | .float value => writeScalar (.float value)
  | .str value => writeScalar (.str value)

def writeItems : List Json → List CodePoint
  | [] => [']']
  | item :: items => ',' :: ' ' :: (write item ++ writeItems items)

def writeMember : Text × Json → List CodePoint
  | (name, value) => writeString name ++ .char ':' :: .char ' ' :: write value

def writeMembers : List (Text × Json) → List CodePoint
  | [] => ['\x7d']
  | member :: members => ',' :: ' ' :: (writeMember member ++ writeMembers members)

end

def newLine (depth : Nat) : List CodePoint := '\n' :: List.replicate (2 * depth) ' '

mutual

def writeIndented (depth : Nat) : Json → List CodePoint
  | .arr [] => ['[', ']']
  | .arr (item :: items) =>
    '[' :: (newLine (depth + 1) ++ writeIndented (depth + 1) item ++ indentedItems depth items)
  | .obj [] => ['\x7b', '\x7d']
  | .obj (member :: members) =>
    '\x7b' :: (newLine (depth + 1) ++ indentedMember (depth + 1) member ++ indentedMembers depth members)
  | .null => writeScalar .null
  | .bool value => writeScalar (.bool value)
  | .int value => writeScalar (.int value)
  | .float value => writeScalar (.float value)
  | .str value => writeScalar (.str value)

def indentedItems (depth : Nat) : List Json → List CodePoint
  | [] => newLine depth ++ [.char ']']
  | item :: items =>
    ',' :: (newLine (depth + 1) ++ writeIndented (depth + 1) item ++ indentedItems depth items)

def indentedMember (depth : Nat) : Text × Json → List CodePoint
  | (name, value) => writeString name ++ .char ':' :: .char ' ' :: writeIndented depth value

def indentedMembers (depth : Nat) : List (Text × Json) → List CodePoint
  | [] => newLine depth ++ [.char '\x7d']
  | member :: members =>
    ',' :: (newLine (depth + 1) ++ indentedMember (depth + 1) member ++ indentedMembers depth members)

end

def render (value : Json) : Text := .ofList (write value)

def renderIndented (value : Json) : Text := .ofList (writeIndented 0 value)

end Pushbutton.Json
