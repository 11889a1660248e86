import Pushbutton.Json.Basic

/-! Findings about values that do not have the form they should have. -/

set_option autoImplicit false

namespace Pushbutton

inductive Complaint where
  | missing
  | notText
  | notList
  | notParams
  | notObject
  | notFields
  | notInteger
  | unreadableInteger
  | oversizedInteger
  | fractionalInteger
  | infiniteInteger
  | negativeInteger
  | notBoolean
  | unreadableBoolean
  | notOneOf (names : List String)
  | malformedJson
  deriving DecidableEq, Repr

def Complaint.code : Complaint → String
  | .missing => "missing"
  | .notText => "string_type"
  | .notList => "list_type"
  | .notParams => "model_type"
  | .notObject => "dict_type"
  | .notFields => "model_attributes_type"
  | .notInteger => "int_type"
  | .unreadableInteger => "int_parsing"
  | .oversizedInteger => "int_parsing_size"
  | .fractionalInteger => "int_from_float"
  | .infiniteInteger => "finite_number"
  | .negativeInteger => "greater_than_equal"
  | .notBoolean => "bool_type"
  | .unreadableBoolean => "bool_parsing"
  | .notOneOf _ => "enum"
  | .malformedJson => "json_invalid"

def alternatives : List String → String
  | [] => ""
  | [name] => "'" ++ name ++ "'"
  | [name, last] => "'" ++ name ++ "' or '" ++ last ++ "'"
  | name :: rest => "'" ++ name ++ "', " ++ alternatives rest

def Complaint.message : Complaint → String
  | .missing => "Field required"
  | .notText => "Input should be a valid string"
  | .notList => "Input should be a valid list"
  | .notParams => "Input should be a valid dictionary or instance of ActionParams"
  | .notObject => "Input should be a valid dictionary"
  | .notFields => "Input should be a valid dictionary or object to extract fields from"
  | .notInteger => "Input should be a valid integer"
  | .unreadableInteger => "Input should be a valid integer, unable to parse string as an integer"
  | .oversizedInteger => "Unable to parse input string as an integer, exceeded maximum size"
  | .fractionalInteger => "Input should be a valid integer, got a number with a fractional part"
  | .infiniteInteger => "Input should be a finite number"
  | .negativeInteger => "Input should be greater than or equal to 0"
  | .notBoolean => "Input should be a valid boolean"
  | .unreadableBoolean => "Input should be a valid boolean, unable to interpret input"
  | .notOneOf names => "Input should be " ++ alternatives names
  | .malformedJson => "JSON decode error"

inductive Place where
  | name (name : String)
  | index (index : Nat)
  deriving DecidableEq, Repr

structure Issue where
  complaint : Complaint
  place : List Place
  value : Json
  deriving Repr

def Issue.within (place : Place) (issue : Issue) : Issue :=
  { issue with place := place :: issue.place }

abbrev Checked (α : Type) := Except (List Issue) α

namespace Checked

variable {α β : Type}

def fail (complaint : Complaint) (value : Json) : Checked α := .error [⟨complaint, [], value⟩]

def within (place : Place) : Checked α → Checked α
  | .ok value => .ok value
  | .error issues => .error (issues.map (Issue.within place))

def both : Checked α → Checked β → Checked (α × β)
  | .ok a, .ok b => .ok (a, b)
  | .ok _, .error issues => .error issues
  | .error issues, .ok _ => .error issues
  | .error first, .error second => .error (first ++ second)

def each (check : Json → Checked α) : Nat → List Json → Checked (List α)
  | _, [] => .ok []
  | index, item :: rest =>
    match both (within (.index index) (check item)) (each check (index + 1) rest) with
    | .ok (item, items) => .ok (item :: items)
    | .error issues => .error issues

def text : Json → Checked Text
  | .str value => .ok value
  | other => fail .notText other

def textOrNull : Json → Checked (Option Text)
  | .null => .ok none
  | other => (text other).map some

end Checked

end Pushbutton
