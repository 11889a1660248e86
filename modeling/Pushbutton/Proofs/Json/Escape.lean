import Pushbutton.Json.Reader
import Pushbutton.Json.Writer
import Pushbutton.Proofs.Text.Numeral

/-! Strings in JSON texts: what was escaped is read back character by character. -/

set_option autoImplicit false

namespace Pushbutton.Json

/-- A character is written after a backslash, by its number, or as it is. -/
theorem escape_cases (c : CodePoint) :
    (∃ letter meant : Char, escape c = [.char '\\', .char letter] ∧ escaped? letter = some meant ∧ c = meant) ∨
    (c.toNat < 0x20 ∧ escape c = .char '\\' :: .char 'u' :: (Text.hexDigits 4 c.toNat).map .char) ∨
    (escape c = [c] ∧ c ≠ '"' ∧ c ≠ '\\' ∧ ¬ c.toNat < 0x20) := by
  -- the tests in the order in which the writer makes them
  unfold escape
  split
  · next same => exact .inl ⟨'"', _, rfl, rfl, same⟩
  split
  · next same => exact .inl ⟨'\\', _, rfl, rfl, same⟩
  split
  · next same => exact .inl ⟨'n', _, rfl, rfl, same⟩
  split
  · next same => exact .inl ⟨'r', _, rfl, rfl, same⟩
  split
  · next same => exact .inl ⟨'t', _, rfl, rfl, same⟩
  split
  · next same => exact .inl ⟨'f', _, rfl, rfl, same⟩
  split
  · next same => exact .inl ⟨'b', _, rfl, rfl, same⟩
  split
  · next control => exact .inr (.inl ⟨control, rfl⟩)
  · next quote backslash _ _ _ _ _ visible => exact .inr (.inr ⟨rfl, quote, backslash, visible⟩)

/-! ## Pieces -/

/-- A piece that is one code point, whatever comes after it. -/
inductive Spells : Piece → CodePoint → Prop where
  | plain (c : CodePoint) : Spells (.plain c) c
  | control {c : CodePoint} (control : c.toNat < 0x20) : Spells (.unit c.toNat) c

theorem Spells.joinPairs_cons {piece : Piece} {c : CodePoint} (spells : Spells piece c) (pieces : List Piece) :
    joinPairs (piece :: pieces) = c :: joinPairs pieces := by
  cases spells with
  | plain c => rfl
  | control control =>
    have single : isHighSurrogate c.toNat = false := by
      simp only [isHighSurrogate, Bool.and_eq_false_iff, decide_eq_false_iff_not]
      omega
    cases pieces with
    | nil => simp [joinPairs, CodePoint.ofNat_toNat]
    | cons next pieces => cases next <;> simp [joinPairs, single, CodePoint.ofNat_toNat]

theorem readPieces_letter {letter meant : Char} (escaped : escaped? letter = some meant)
    (opening rest : List CodePoint) (more : rest ≠ []) :
    readPieces opening ('\\' :: letter :: rest) =
      (readPieces opening rest).map fun (pieces, rest) => (.plain meant :: pieces, rest) := by
  have named : letter ≠ 'u' := by
    rintro rfl
    simp [escaped?] at escaped
  obtain ⟨next, rest, rfl⟩ := List.exists_cons_of_ne_nil more
  simp [readPieces, named, escaped]

theorem readPieces_control {n : Nat} (control : n < 0x20) (opening rest : List CodePoint) (more : rest ≠ []) :
    readPieces opening ('\\' :: 'u' :: ((Text.hexDigits 4 n).map .char ++ rest)) =
      (readPieces opening rest).map fun (pieces, rest) => (.unit n :: pieces, rest) := by
  obtain ⟨next, rest, rfl⟩ := List.exists_cons_of_ne_nil more
  have unit : hexUnit? (Text.hexDigit (n / 16 / 16 / 16)) (Text.hexDigit (n / 16 / 16))
      (Text.hexDigit (n / 16)) (Text.hexDigit n) = some n := by
    simp only [hexUnit?, CodePoint.char?, Text.hexValue?_hexDigit, Option.bind_eq_bind, Option.bind_some,
      Option.pure_def, Option.some.injEq]
    omega
  simp [Text.hexDigits, readPieces, unit]

theorem readPieces_visible {c : CodePoint} (quote : c ≠ '"') (backslash : c ≠ '\\') (visible : ¬ c.toNat < 0x20)
    (opening rest : List CodePoint) :
    readPieces opening (c :: rest) =
      (readPieces opening rest).map fun (pieces, rest) => (.plain c :: pieces, rest) := by
  rw [readPieces.eq_def]
  split <;> simp_all

theorem readPieces_escape (c : CodePoint) : ∃ piece, Spells piece c ∧
    ∀ opening rest, rest ≠ [] → readPieces opening (escape c ++ rest) =
      (readPieces opening rest).map fun (pieces, rest) => (piece :: pieces, rest) := by
  rcases escape_cases c with ⟨letter, meant, form, escaped, rfl⟩ | ⟨control, form⟩ | ⟨form, quote, backslash, visible⟩
  · refine ⟨.plain meant, .plain _, fun opening rest more => ?_⟩
    rw [form]
    exact readPieces_letter escaped opening rest more
  · refine ⟨.unit c.toNat, .control control, fun opening rest more => ?_⟩
    rw [form]
    exact readPieces_control control opening rest more
  · refine ⟨.plain c, .plain c, fun opening rest _ => ?_⟩
    rw [form]
    exact readPieces_visible quote backslash visible opening rest

theorem readPieces_written (text opening rest : List CodePoint) : ∃ pieces,
    readPieces opening (text.flatMap escape ++ .char '"' :: rest) = .ok (pieces, rest) ∧ joinPairs pieces = text := by
  induction text with
  | nil => exact ⟨[], by simp [readPieces], rfl⟩
  | cons c text ih =>
    obtain ⟨pieces, read, joined⟩ := ih
    obtain ⟨piece, spells, step⟩ := readPieces_escape c
    refine ⟨piece :: pieces, ?_, by rw [spells.joinPairs_cons, joined]⟩
    rw [List.flatMap_cons, List.append_assoc, step opening _ (by simp), read]
    rfl

theorem readString_written (text : Text) (opening rest : List CodePoint) :
    readString opening (text.toList.flatMap escape ++ .char '"' :: rest) = .ok (text, rest) := by
  obtain ⟨pieces, read, joined⟩ := readPieces_written text.toList opening rest
  simp only [readString, read, Except.map, joined]

end Pushbutton.Json
