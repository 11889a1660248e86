import Pushbutton.Text.Utf8

/-! Texts that have octets: those without halves, which are the strings. -/

set_option autoImplicit false

namespace Pushbutton.Text

def Characters (row : List CodePoint) : Prop := ∀ c ∈ row, c.char?.isSome

@[simp] theorem characters_nil : Characters [] := nofun

@[simp] theorem characters_cons_char {c : Char} {row : List CodePoint} :
    Characters (.char c :: row) ↔ Characters row :=
  List.forall_mem_cons.trans (and_iff_right rfl)

@[simp] theorem not_characters_cons_half {unit : Half} {row : List CodePoint} : ¬ Characters (.half unit :: row) :=
  fun whole => absurd (whole _ List.mem_cons_self) (by simp [CodePoint.char?])

@[simp] theorem characters_append {before after : List CodePoint} :
    Characters (before ++ after) ↔ Characters before ∧ Characters after := List.forall_mem_append

@[simp] theorem characters_map (row : List Char) : Characters (row.map .char) := List.forall_mem_map.mpr fun _ _ => rfl

theorem whole_iff_characters {text : Text} : text.Whole ↔ Characters text.toList := .rfl

@[simp] theorem whole_ofString (string : String) : (string : Text).Whole := characters_map _

@[simp] theorem whole_append {before after : Text} : (before ++ after).Whole ↔ before.Whole ∧ after.Whole :=
  characters_append

theorem map_filterMap_char? {row : List CodePoint} (whole : Characters row) :
    (row.filterMap CodePoint.char?).map .char = row := by
  induction row with
  | nil => rfl
  | cons c row ih =>
    cases c with
    | char c => exact congrArg (.char c :: ·) (ih (characters_cons_char.mp whole))
    | half unit => exact absurd whole not_characters_cons_half

theorem whole_iff_exists_ofString {text : Text} : text.Whole ↔ ∃ string : String, text = string := by
  constructor
  · intro whole
    refine ⟨String.ofList (text.toList.filterMap CodePoint.char?), ?_⟩
    rw [← toList_inj, toList_ofString, String.toList_ofList, map_filterMap_char? whole]
  · rintro ⟨string, rfl⟩
    exact whole_ofString string

theorem string?_eq_some_iff {text : Text} {string : String} : text.string? = some string ↔ text = string := by
  constructor
  · intro found
    have whole : text.Whole := by
      rw [string?] at found
      split at found
      · assumption
      · cases found
    obtain ⟨other, rfl⟩ := whole_iff_exists_ofString.mp whole
    rw [string?_ofString, Option.some.injEq] at found
    rw [found]
  · rintro rfl
    exact string?_ofString string

theorem encodeFaultFrom?_eq_none_iff {start : Nat} {row : List CodePoint} :
    encodeFaultFrom? start row = none ↔ Characters row := by
  induction row generalizing start with
  | nil => simp [encodeFaultFrom?]
  | cons c row ih => cases c <;> simp [encodeFaultFrom?, ih]

theorem encode_ofString (string : String) : (string : Text).encode = .ok string.toUTF8 := by
  rw [encode, encodeFaultFrom?_eq_none_iff.mpr (whole_ofString string), toList_ofString, filterMap_char?_map,
    String.ofList_toList]

theorem encode_eq_ok_iff {text : Text} {octets : ByteArray} :
    text.encode = .ok octets ↔ ∃ string : String, text = string ∧ octets = string.toUTF8 := by
  constructor
  · intro encoded
    have whole : text.Whole := by
      rw [encode] at encoded
      split at encoded
      · cases encoded
      · next none => exact encodeFaultFrom?_eq_none_iff.mp none
    obtain ⟨string, rfl⟩ := whole_iff_exists_ofString.mp whole
    rw [encode_ofString] at encoded
    exact ⟨string, rfl, (Except.ok.inj encoded).symm⟩
  · rintro ⟨string, rfl, rfl⟩
    exact encode_ofString string

theorem whole_of_encode {text : Text} {octets : ByteArray} (encoded : text.encode = .ok octets) : text.Whole :=
  whole_iff_exists_ofString.mpr ((encode_eq_ok_iff.mp encoded).imp fun _ => And.left)

end Pushbutton.Text
