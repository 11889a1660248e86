import Pushbutton.Proofs.Json.RoundTrip

/-! The characters of JSON texts. Whatever texts a value holds, there is no control character in what is written for it,
and so it is written on one line. -/

set_option autoImplicit false

namespace Pushbutton.Json

def Visible (text : List CodePoint) : Prop := ∀ c ∈ text, 0x20 ≤ c.toNat

@[simp] theorem visible_nil : Visible [] := nofun

@[simp] theorem visible_cons_iff {c : CodePoint} {text : List CodePoint} :
    Visible (c :: text) ↔ 0x20 ≤ c.toNat ∧ Visible text := List.forall_mem_cons

@[simp] theorem visible_append_iff {first rest : List CodePoint} :
    Visible (first ++ rest) ↔ Visible first ∧ Visible rest := List.forall_mem_append

theorem visible_escape (c : CodePoint) : Visible (escape c) := by
  rcases escape_cases c with ⟨letter, meant, form, escaped, -⟩ | ⟨control, form⟩ | ⟨form, -, -, visible⟩
  · have shown : 0x20 ≤ letter.toNat := by
      unfold escaped? at escaped
      split at escaped <;> simp_all
    simp [form, shown]
  · have digits : Visible ((Text.hexDigits 4 c.toNat).map .char) := by
      have all : "0123456789abcdef".toList.all fun c => 0x20 ≤ c.toNat := by decide
      simp only [List.all_eq_true, decide_eq_true_eq] at all
      exact List.forall_mem_map.mpr fun digit member => all digit (Text.mem_hexDigits member)
    simp [form, digits]
  · simpa [form] using visible

theorem visible_writeString (text : Text) : Visible (writeString text) := by
  have escaped : Visible (text.toList.flatMap escape) := by
    intro c member
    obtain ⟨written, _, found⟩ := List.mem_flatMap.mp member
    exact visible_escape written c found
  simp [writeString, escaped]

theorem visible_intDigits (n : Int) : Visible ((Text.intDigits n).map .char) := by
  have digits (n : Nat) : Visible ((Text.natDigits n).map .char) := by
    refine List.forall_mem_map.mpr fun c member => ?_
    have digit := Text.isDigit_of_mem_natDigits n c member
    simp only [Text.isDigit, Bool.and_eq_true, decide_eq_true_eq] at digit
    rw [CodePoint.toNat_char]
    omega
  cases n <;> simp [Text.intDigits, digits]

mutual

theorem visible_write : ∀ value : Json, value.Plain → Visible (write value)
  | .null, _ | .bool true, _ | .bool false, _ | .arr [], _ | .obj [], _ => by simp [write, writeScalar]
  | .int n, _ => by simp only [write, writeScalar, visible_intDigits]
  | .str text, _ => by simp only [write, writeScalar, visible_writeString]
  | .arr (item :: items), plain => by
    have first := visible_write item plain.1
    have rest := visible_writeItems items plain.2
    simp [write, first, rest]
  | .obj (member :: members), plain => by
    have first := visible_writeMember member plain.2.1
    have rest := visible_writeMembers members plain.2.2
    simp [write, first, rest]

theorem visible_writeItems : ∀ items : List Json, PlainItems items → Visible (writeItems items)
  | [], _ => by simp [writeItems]
  | item :: items, plain => by
    have first := visible_write item plain.1
    have rest := visible_writeItems items plain.2
    simp [writeItems, first, rest]

theorem visible_writeMember : ∀ member : Text × Json, PlainMember member → Visible (writeMember member)
  | (name, value), plain => by
    have value := visible_write value plain
    simp [writeMember, visible_writeString, value]

theorem visible_writeMembers : ∀ members : List (Text × Json), PlainMembers members → Visible (writeMembers members)
  | [], _ => by simp [writeMembers]
  | member :: members, plain => by
    have first := visible_writeMember member plain.1
    have rest := visible_writeMembers members plain.2
    simp [writeMembers, first, rest]

end

theorem visible_render {value : Json} (plain : value.Plain) : Visible value.render.toList := by
  exact visible_write value plain

end Pushbutton.Json
