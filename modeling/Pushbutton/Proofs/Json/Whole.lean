import Pushbutton.Proofs.Json.Escape
import Pushbutton.Proofs.Json.Layout
import Pushbutton.Proofs.Text.Whole

/-! Halves in JSON texts. They are written as they stand, so what is written for a value is whole just where each of
its texts is. -/

set_option autoImplicit false

namespace Pushbutton.Json

open Text (Characters)

variable (property : Text → Prop)

mutual

def AllTexts : Json → Prop
  | .null | .bool _ | .int _ | .float _ => True
  | .str text => property text
  | .arr items => AllItems items
  | .obj members => AllMembers members

def AllItems : List Json → Prop
  | [] => True
  | item :: items => AllTexts item ∧ AllItems items

def AllMember : Text × Json → Prop
  | (name, value) => property name ∧ AllTexts value

def AllMembers : List (Text × Json) → Prop
  | [] => True
  | member :: members => AllMember member ∧ AllMembers members

end

theorem allItems_iff {items : List Json} : AllItems property items ↔ ∀ item ∈ items, item.AllTexts property := by
  induction items with
  | nil => simp [AllItems]
  | cons item items ih => rw [AllItems, ih, List.forall_mem_cons]

theorem allMembers_iff {members : List (Text × Json)} :
    AllMembers property members ↔ ∀ member ∈ members, property member.1 ∧ member.2.AllTexts property := by
  induction members with
  | nil => simp [AllMembers]
  | cons member members ih => rw [AllMembers, ih, List.forall_mem_cons, AllMember]

/-! ## Writing -/

theorem characters_blanks {blanks : List CodePoint} (blank : ∀ c ∈ blanks, isSpace c = true) : Characters blanks := by
  intro c member
  have space := blank c member
  simp only [isSpace, Bool.or_eq_true, beq_iff_eq] at space
  rcases space with ((rfl | rfl) | rfl) | rfl <;> rfl

theorem characters_escape {c : CodePoint} : Characters (escape c) ↔ c.char?.isSome := by
  rcases escape_cases c with ⟨letter, meant, form, -, rfl⟩ | ⟨control, form⟩ | ⟨form, -, -, -⟩
  · simp [form, CodePoint.char?]
  · -- a half has a much larger number
    cases c with
    | char c => simp [form, CodePoint.char?]
    | half unit =>
      have large := unit.bounds.1
      rw [CodePoint.toNat] at control
      omega
  · simp [form, Characters]

theorem characters_writeString {text : Text} : Characters (writeString text) ↔ text.Whole := by
  have escaped : Characters (text.toList.flatMap escape) ↔ text.Whole := by
    rw [Characters, List.forall_mem_flatMap]
    exact forall₂_congr fun c _ => characters_escape
  simp [writeString, escaped]

section

variable (layout : Layout)

mutual

theorem characters_laid : ∀ (value : Json) (depth : Nat),
    Characters (laid layout depth value) ↔ value.AllTexts Text.Whole
  | .null, _ | .bool true, _ | .bool false, _ | .int _, _ | .float _, _ => by simp [laid, writeScalar, AllTexts]
  | .arr [], _ => by simp [laid, AllTexts, AllItems]
  | .obj [], _ => by simp [laid, AllTexts, AllMembers]
  | .str text, _ => by simp [laid, writeScalar, characters_writeString, AllTexts]
  | .arr (item :: items), depth => by
    have blanks := characters_blanks (layout.opening_blank depth)
    have first := characters_laid item (depth + 1)
    have rest := characters_laidItems items depth
    simp [laid, AllTexts, AllItems, blanks, first, rest]
  | .obj (member :: members), depth => by
    have blanks := characters_blanks (layout.opening_blank depth)
    have first := characters_laidMember member (depth + 1)
    have rest := characters_laidMembers members depth
    simp [laid, AllTexts, AllMembers, blanks, first, rest]

theorem characters_laidItems : ∀ (items : List Json) (depth : Nat),
    Characters (laidItems layout depth items) ↔ AllItems Text.Whole items
  | [], depth => by
    have blanks := characters_blanks (layout.closing_blank depth)
    simp [laidItems, AllItems, blanks]
  | item :: items, depth => by
    have blanks := characters_blanks (layout.between_blank depth)
    have first := characters_laid item (depth + 1)
    have rest := characters_laidItems items depth
    simp [laidItems, AllItems, blanks, first, rest]

theorem characters_laidMember : ∀ (member : Text × Json) (depth : Nat),
    Characters (laidMember layout depth member) ↔ AllMember Text.Whole member
  | (name, value), depth => by
    have blanks := characters_blanks layout.naming_blank
    have value := characters_laid value depth
    simp [laidMember, AllMember, characters_writeString, blanks, value]

theorem characters_laidMembers : ∀ (members : List (Text × Json)) (depth : Nat),
    Characters (laidMembers layout depth members) ↔ AllMembers Text.Whole members
  | [], depth => by
    have blanks := characters_blanks (layout.closing_blank depth)
    simp [laidMembers, AllMembers, blanks]
  | member :: members, depth => by
    have blanks := characters_blanks (layout.between_blank depth)
    have first := characters_laidMember member (depth + 1)
    have rest := characters_laidMembers members depth
    simp [laidMembers, AllMembers, blanks, first, rest]

end

end

theorem whole_lay {layout : Layout} {value : Json} : (lay layout value).Whole ↔ value.AllTexts Text.Whole :=
  characters_laid layout value 0

theorem whole_render {value : Json} : value.render.Whole ↔ value.AllTexts Text.Whole := by
  rw [render_eq_lay, whole_lay]

theorem whole_renderIndented {value : Json} : value.renderIndented.Whole ↔ value.AllTexts Text.Whole := by
  rw [Text.whole_iff_characters, renderIndented, ← laid_indented]
  exact characters_laid .indented value 0

end Pushbutton.Json
