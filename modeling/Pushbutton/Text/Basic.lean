/-! Texts as rows of code points. Unlike a `String`, a text can hold half of a surrogate pair without the other half;
no encoding has octets for it. -/

set_option autoImplicit false

namespace Pushbutton

structure Half where
  code : Nat
  bounds : 0xD800 ≤ code ∧ code < 0xE000
  deriving DecidableEq, Repr

inductive CodePoint where
  | char (c : Char)
  | half (unit : Half)
  deriving DecidableEq, Repr

namespace CodePoint

instance : Coe Char CodePoint := ⟨.char⟩

def ofNat (n : Nat) : CodePoint :=
  if bounds : 0xD800 ≤ n ∧ n < 0xE000 then .half ⟨n, bounds⟩ else .char (Char.ofNat n)

def toNat : CodePoint → Nat
  | .char c => c.toNat
  | .half unit => unit.code

@[simp] theorem toNat_char (c : Char) : (char c).toNat = c.toNat := rfl

theorem ofNat_toNat (c : CodePoint) : ofNat c.toNat = c := by
  cases c with
  | char c =>
    -- the range of a half is just what is missing among the characters
    have valid : c.toNat.isValidChar := c.valid
    have other : ¬ (0xD800 ≤ c.toNat ∧ c.toNat < 0xE000) := by
      simp only [Nat.isValidChar] at valid
      omega
    rw [toNat, ofNat, dif_neg other, Char.ofNat_toNat]
  | half unit => rw [toNat, ofNat, dif_pos unit.bounds]

def char? : CodePoint → Option Char
  | .char c => some c
  | .half _ => none

end CodePoint

structure Text where
  ofList ::
  toList : List CodePoint
  deriving DecidableEq, Repr

namespace Text

@[coe] def ofString (string : String) : Text := ofList (string.toList.map .char)

instance : Coe String Text := ⟨ofString⟩

instance : Append Text := ⟨fun before after => ofList (before.toList ++ after.toList)⟩

/-- A text without halves, which is a `String`. -/
def Whole (text : Text) : Prop := ∀ c ∈ text.toList, c.char?.isSome

instance (text : Text) : Decidable text.Whole := List.decidableBAll _ text.toList

def string? (text : Text) : Option String :=
  if text.Whole then some (String.ofList (text.toList.filterMap CodePoint.char?)) else none

theorem toList_inj {text other : Text} : text.toList = other.toList ↔ text = other := by
  cases text
  cases other
  simp

@[simp] theorem toList_append (before after : Text) : (before ++ after).toList = before.toList ++ after.toList := rfl

@[simp] theorem toList_ofString (string : String) : (string : Text).toList = string.toList.map .char := rfl

theorem append_assoc (first second third : Text) : first ++ second ++ third = first ++ (second ++ third) := by
  rw [← toList_inj]
  simp

@[simp] theorem append_empty (text : Text) : text ++ ("" : Text) = text := by
  rw [← toList_inj]
  simp

theorem append_right_inj (before : Text) {after other : Text} : before ++ after = before ++ other ↔ after = other := by
  rw [← toList_inj, toList_append, toList_append, List.append_right_inj, toList_inj]

@[simp] theorem ofString_inj {string other : String} : (string : Text) = other ↔ string = other := by
  refine ⟨fun same => ?_, congrArg _⟩
  exact String.toList_inj.mp ((List.map_inj_right fun _ _ => CodePoint.char.inj).mp (ofList.inj same))

@[simp] theorem ofString_append (before after : String) : ((before ++ after : String) : Text) = before ++ after := by
  rw [← toList_inj]
  simp

theorem filterMap_char?_map (row : List Char) : (row.map CodePoint.char).filterMap CodePoint.char? = row := by
  rw [List.filterMap_map]
  exact List.filterMap_some

theorem string?_ofString (string : String) : (string : Text).string? = some string := by
  have whole : (string : Text).Whole := by simp [Whole, CodePoint.char?]
  rw [Text.string?, if_pos whole, toList_ofString, filterMap_char?_map, String.ofList_toList]

end Text

end Pushbutton
