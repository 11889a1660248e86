import Pushbutton.Json.Reader
import Pushbutton.Json.Writer

/-! One writer for all layouts. Texts of JSON values differ in their blanks only: after an opening
bracket, after a comma, after the colon of a member and before a closing bracket. -/

set_option autoImplicit false

namespace Pushbutton.Json

structure Layout where
  opening : Nat → List CodePoint
  between : Nat → List CodePoint
  naming : List CodePoint
  closing : Nat → List CodePoint
  opening_blank : ∀ depth, ∀ c ∈ opening depth, isSpace c = true
  between_blank : ∀ depth, ∀ c ∈ between depth, isSpace c = true
  naming_blank : ∀ c ∈ naming, isSpace c = true
  closing_blank : ∀ depth, ∀ c ∈ closing depth, isSpace c = true

theorem isSpace_of_mem_newLine (depth : Nat) : ∀ c ∈ newLine depth, isSpace c = true := by
  intro c member
  rcases List.mem_cons.mp member with rfl | member
  · rfl
  · rw [List.eq_of_mem_replicate member]
    rfl

namespace Layout

def oneLine : Layout where
  opening _ := []
  between _ := [' ']
  naming := [' ']
  closing _ := []
  opening_blank _ _ member := absurd member List.not_mem_nil
  between_blank _ _ member := List.mem_singleton.mp member ▸ rfl
  naming_blank _ member := List.mem_singleton.mp member ▸ rfl
  closing_blank _ _ member := absurd member List.not_mem_nil

def indented : Layout where
  opening depth := newLine (depth + 1)
  between depth := newLine (depth + 1)
  naming := [' ']
  closing depth := newLine depth
  opening_blank depth := isSpace_of_mem_newLine (depth + 1)
  between_blank depth := isSpace_of_mem_newLine (depth + 1)
  naming_blank _ member := List.mem_singleton.mp member ▸ rfl
  closing_blank depth := isSpace_of_mem_newLine depth

def compact : Layout where
  opening _ := []
  between _ := []
  naming := []
  closing _ := []
  opening_blank _ _ member := absurd member List.not_mem_nil
  between_blank _ _ member := absurd member List.not_mem_nil
  naming_blank _ member := absurd member List.not_mem_nil
  closing_blank _ _ member := absurd member List.not_mem_nil

end Layout

variable (layout : Layout)

mutual

def laid (depth : Nat) : Json → List CodePoint
  | .arr [] => ['[', ']']
  | .arr (item :: items) =>
    '[' :: (layout.opening depth ++ laid (depth + 1) item ++ laidItems depth items)
  | .obj [] => ['\x7b', '\x7d']
  | .obj (member :: members) =>
    '\x7b' :: (layout.opening depth ++ laidMember (depth + 1) member ++ laidMembers depth members)
  | .null => writeScalar .null
  | .bool value => writeScalar (.bool value)
  | .int value => writeScalar (.int value)
  | .float value => writeScalar (.float value)
  | .str value => writeScalar (.str value)

def laidItems (depth : Nat) : List Json → List CodePoint
  | [] => layout.closing depth ++ [.char ']']
  | item :: items => ',' :: (layout.between depth ++ laid (depth + 1) item ++ laidItems depth items)

def laidMember (depth : Nat) : Text × Json → List CodePoint
  | (name, value) => writeString name ++ .char ':' :: (layout.naming ++ laid depth value)

def laidMembers (depth : Nat) : List (Text × Json) → List CodePoint
  | [] => layout.closing depth ++ [.char '\x7d']
  | member :: members =>
    ',' :: (layout.between depth ++ laidMember (depth + 1) member ++ laidMembers depth members)

end

def lay (value : Json) : Text := Text.ofList (laid layout 0 value)

mutual

theorem laid_oneLine (depth : Nat) : ∀ value, laid .oneLine depth value = write value
  | .arr (item :: items) => by
    simp only [laid, write, laid_oneLine (depth + 1) item, laidItems_oneLine depth items]
    rfl
  | .obj ((name, value) :: members) => by
    simp only [laid, laidMember, write, writeMember, laid_oneLine (depth + 1) value,
      laidMembers_oneLine depth members]
    rfl
  | .arr [] | .obj [] | .null | .bool _ | .int _ | .float _ | .str _ => by simp only [laid, write]

theorem laidItems_oneLine (depth : Nat) : ∀ items, laidItems .oneLine depth items = writeItems items
  | [] => rfl
  | item :: items => by
    simp only [laidItems, writeItems, laid_oneLine (depth + 1) item, laidItems_oneLine depth items]
    rfl

theorem laidMembers_oneLine (depth : Nat) :
    ∀ members, laidMembers .oneLine depth members = writeMembers members
  | [] => rfl
  | (name, value) :: members => by
    simp only [laidMembers, laidMember, writeMembers, writeMember, laid_oneLine (depth + 1) value,
      laidMembers_oneLine depth members]
    rfl

end

theorem render_eq_lay (value : Json) : value.render = lay .oneLine value := by rw [lay, laid_oneLine, render]

mutual

theorem laid_indented (depth : Nat) : ∀ value, laid .indented depth value = writeIndented depth value
  | .arr (item :: items) => by
    simp only [laid, writeIndented, laid_indented (depth + 1) item, laidItems_indented depth items]
    rfl
  | .obj ((name, value) :: members) => by
    simp only [laid, laidMember, writeIndented, indentedMember, laid_indented (depth + 1) value,
      laidMembers_indented depth members]
    rfl
  | .arr [] | .obj [] | .null | .bool _ | .int _ | .float _ | .str _ => by simp only [laid, writeIndented]

theorem laidItems_indented (depth : Nat) :
    ∀ items, laidItems .indented depth items = indentedItems depth items
  | [] => rfl
  | item :: items => by
    simp only [laidItems, indentedItems, laid_indented (depth + 1) item, laidItems_indented depth items]
    simp [Layout.indented]

theorem laidMembers_indented (depth : Nat) :
    ∀ members, laidMembers .indented depth members = indentedMembers depth members
  | [] => rfl
  | (name, value) :: members => by
    simp only [laidMembers, laidMember, indentedMembers, indentedMember, laid_indented (depth + 1) value,
      laidMembers_indented depth members]
    simp [Layout.indented]

end

end Pushbutton.Json
