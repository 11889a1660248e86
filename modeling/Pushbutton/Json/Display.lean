import Pushbutton.Binary64.Text
import Pushbutton.Json.Basic
import Pushbutton.Text.Quoted

/-! JSON values as messages show them: quoted text, and words for the three constants. -/

set_option autoImplicit false

namespace Pushbutton.Json

mutual

def display : Json → List Char
  | .null => "None".toList
  | .bool true => "True".toList
  | .bool false => "False".toList
  | .int value => Text.intDigits value
  | .float value => value.display
  | .str value => Text.quote value.toList
  | .arr [] => ['[', ']']
  | .arr (item :: items) => '[' :: (display item ++ displayItems items)
  | .obj [] => ['\x7b', '\x7d']
  | .obj (member :: members) => '\x7b' :: (displayMember member ++ displayMembers members)

def displayItems : List Json → List Char
  | [] => [']']
  | item :: items => ',' :: ' ' :: (display item ++ displayItems items)

def displayMember : Text × Json → List Char
  | (name, value) => Text.quote name.toList ++ ':' :: ' ' :: display value

def displayMembers : List (Text × Json) → List Char
  | [] => ['\x7d']
  | member :: members => ',' :: ' ' :: (displayMember member ++ displayMembers members)

end

def shown (value : Json) : String := String.ofList (display value)

end Pushbutton.Json
