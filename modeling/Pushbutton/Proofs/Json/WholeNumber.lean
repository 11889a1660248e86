import Mathlib.Data.List.TakeDrop
import Pushbutton.Json.Reader
import Pushbutton.Proofs.Text.Numeral

/-! Whole numbers in JSON texts: the digits are read as one number when nothing goes on with it. -/

set_option autoImplicit false

namespace Pushbutton.Json

def EndsNumber (rest : List CodePoint) : Prop :=
  ∀ c ∈ rest.head?, c.char?.any Text.isDigit = false ∧ c ≠ '.' ∧ c ≠ 'e' ∧ c ≠ 'E'

theorem spanDigits_append {digits : List Char} {rest : List CodePoint} (all : ∀ c ∈ digits, Text.isDigit c = true)
    (ends : EndsNumber rest) : Text.spanDigits (digits.map .char ++ rest) = (digits, rest) := by
  induction digits with
  | nil =>
    -- no digit follows, so none is taken from what follows
    rcases rest with - | ⟨c | unit, rest⟩
    · rfl
    · have other := (ends c rfl).1
      simp_all [Text.spanDigits, CodePoint.char?]
    · rfl
  | cons c digits ih =>
    rw [List.forall_mem_cons] at all
    rw [List.map_cons, List.cons_append, Text.spanDigits, if_pos all.1, ih all.2]

theorem readWhole_natDigits (n : Nat) {rest : List CodePoint} (ends : EndsNumber rest) :
    readWhole ((Text.natDigits n).map .char ++ rest) = some (Text.natDigits n, rest) := by
  have span := spanDigits_append (Text.isDigit_of_mem_natDigits n) ends
  rcases Nat.eq_zero_or_pos n with rfl | positive
  · rw [Text.natDigits_of_lt (by decide)] at span ⊢
    rw [readWhole, span]
    rfl
  · obtain ⟨first, digits, shape, digit, nonzero⟩ := Text.natDigits_eq_cons n
    rw [shape] at span ⊢
    rw [readWhole, span]
    split
    · next same => cases same
    · next same => exact absurd (List.cons.inj (Prod.mk.inj same).1).1 (nonzero positive)
    · next same =>
      cases same
      rfl

theorem readFraction_none {rest : List CodePoint} (ends : EndsNumber rest) : readFraction rest = ([], rest) := by
  rcases rest with - | ⟨c | unit, rest⟩
  · rfl
  · simp_all [readFraction, EndsNumber]
  · rfl

theorem readExponent_none {rest : List CodePoint} (ends : EndsNumber rest) :
    readExponent rest = (none, rest) := by
  cases rest with
  | nil => rfl
  | cons c rest => simp [readExponent, (ends c rfl).2.2.1, (ends c rfl).2.2.2]

theorem readNumber_natDigits (negative : Bool) (n : Nat) {rest : List CodePoint} (ends : EndsNumber rest)
    (limit : (Text.natDigits n).length ≤ Text.digitLimit) :
    readNumber negative (Text.natDigits n) rest =
      .ok (.int (if negative then -(n : Int) else n), rest) := by
  simp only [readNumber, readFraction_none ends, readExponent_none ends, wholeNumber,
    Text.ofDigits_natDigits, if_neg (Nat.not_lt.mpr limit)]
  rfl

theorem readWord_of_readWhole {c : Char} {text rest : List CodePoint} {whole : List Char}
    (digit : Text.isDigit c = true) (read : readWhole (c :: text) = some (whole, rest)) :
    readWord (c :: text) = readNumber false whole rest ∧
    readWord ('-' :: c :: text) = readNumber true whole rest := by
  constructor
  · rw [readWord.eq_def]
    split <;> simp_all [Text.isDigit]
  · rw [readWord.eq_def]
    split <;> simp_all [Text.isDigit]

theorem readWord_natDigits (n : Nat) {rest : List CodePoint} (ends : EndsNumber rest)
    (limit : (Text.natDigits n).length ≤ Text.digitLimit) :
    readWord ((Text.natDigits n).map .char ++ rest) = .ok (.int n, rest) ∧
    readWord ('-' :: ((Text.natDigits n).map .char ++ rest)) = .ok (.int (-n), rest) := by
  obtain ⟨first, digits, shape, digit, _⟩ := Text.natDigits_eq_cons n
  have whole := readWhole_natDigits n ends
  have number (negative : Bool) := readNumber_natDigits negative n ends limit
  rw [shape, List.map_cons, List.cons_append] at whole ⊢
  rw [shape] at number
  obtain ⟨plus, minus⟩ := readWord_of_readWhole digit whole
  exact ⟨plus.trans (number false), minus.trans (number true)⟩

theorem readWord_intDigits (n : Int) {rest : List CodePoint} (ends : EndsNumber rest)
    (limit : (Text.natDigits n.natAbs).length ≤ Text.digitLimit) :
    readWord ((Text.intDigits n).map .char ++ rest) = .ok (.int n, rest) := by
  cases n with
  | ofNat n => exact (readWord_natDigits n ends limit).1
  | negSucc n => exact (readWord_natDigits (n + 1) ends limit).2

/-- The first character of a whole number tells it from all other values. -/
theorem intDigits_eq_cons (n : Int) :
    ∃ first rest, Text.intDigits n = first :: rest ∧ first ∈ "-0123456789".toList := by
  cases n with
  | ofNat n =>
    obtain ⟨first, rest, shape, digit, _⟩ := Text.natDigits_eq_cons n
    exact ⟨first, rest, shape, List.mem_cons_of_mem '-' (Text.mem_of_isDigit digit)⟩
  | negSucc n => exact ⟨'-', Text.natDigits (n + 1), rfl, List.mem_cons_self⟩

end Pushbutton.Json
