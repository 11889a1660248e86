import Mathlib.Data.List.Basic
import Pushbutton.Proofs.Text.Numeral
import Pushbutton.Text.Quoted

/-! Quoted text is read back: each spelling tells by its first characters where it ends and what it stands for, so a
quoted text is never the beginning of another. -/

set_option autoImplicit false

namespace Pushbutton.Text

/-! ## Spellings of a character -/

def ofHexDigits (digits : List Char) : Nat := digits.foldl (fun n c => 16 * n + (hexValue? c).getD 0) 0

theorem ofHexDigits_hexDigits (width n : Nat) : ofHexDigits (hexDigits width n) = n % 16 ^ width := by
  induction width generalizing n with
  | zero => simp [hexDigits, ofHexDigits, Nat.mod_one]
  | succ width ih =>
    have last : ofHexDigits (hexDigits (width + 1) n) = 16 * ofHexDigits (hexDigits width (n / 16)) + n % 16 := by
      simp [ofHexDigits, hexDigits, hexValue?_hexDigit]
    rw [last, ih, Nat.pow_succ, Nat.mul_comm (16 ^ width), Nat.mod_mul]
    omega

/-- How many hexadecimal digits come after a backslash and this letter. -/
def hexWidth? : Char → Option Nat
  | 'x' => some 2
  | 'u' => some 4
  | 'U' => some 8
  | _ => none

def unescaped : Char → Char
  | 't' => '\t'
  | 'n' => '\n'
  | 'r' => '\r'
  | c => c

def readSpelled : List Char → Option (CodePoint × List Char)
  | [] => none
  | '\\' :: letter :: rest =>
    match hexWidth? letter with
    | some width => some (.ofNat (ofHexDigits (rest.take width)), rest.drop width)
    | none => some (.char (unescaped letter), rest)
  | c :: rest => some (.char c, rest)

theorem readSpelled_bare {c : Char} (bare : c ≠ '\\') (rest : List Char) :
    readSpelled (c :: rest) = some (.char c, rest) := by
  unfold readSpelled
  split <;> simp_all

theorem readSpelled_escaped {letter : Char} (short : hexWidth? letter = none) (rest : List Char) :
    readSpelled ('\\' :: letter :: rest) = some (.char (unescaped letter), rest) := by
  rw [readSpelled, short]

theorem readSpelled_hexDigits {letter : Char} {c : CodePoint} {width : Nat} (long : hexWidth? letter = some width)
    (small : c.toNat < 16 ^ width) (rest : List Char) :
    readSpelled ('\\' :: letter :: (hexDigits width c.toNat ++ rest)) = some (c, rest) := by
  have digits := length_hexDigits width c.toNat
  simp only [readSpelled, long, List.take_left' digits, List.drop_left' digits, ofHexDigits_hexDigits,
    Nat.mod_eq_of_lt small, CodePoint.ofNat_toNat]

theorem quoteFor_eq_or (text : List CodePoint) : quoteFor text = '\'' ∨ quoteFor text = '"' := by
  unfold quoteFor
  split
  · exact .inr rfl
  · exact .inl rfl

theorem toNat_lt_pow (c : Char) : c.toNat < 16 ^ 8 := by
  have valid : c.toNat.isValidChar := c.valid
  simp only [Nat.isValidChar] at valid
  omega

theorem readSpelled_spelled {mark : Char} (quotes : mark = '\'' ∨ mark = '"') (c : CodePoint) (rest : List Char) :
    readSpelled (spelled mark c ++ rest) = some (c, rest) := by
  cases c with
  | half unit =>
    have small : unit.code < 16 ^ 4 := Nat.lt_trans unit.bounds.2 (by decide)
    exact readSpelled_hexDigits (c := .half unit) rfl small rest
  | char c =>
  rw [spelled]
  -- the tests in the order in which a character is spelled
  split
  · next marked =>
    have itself : hexWidth? c = none ∧ unescaped c = c := by
      rcases marked with rfl | rfl
      · rcases quotes with rfl | rfl <;> exact ⟨rfl, rfl⟩
      · exact ⟨rfl, rfl⟩
    rw [List.cons_append, List.singleton_append, readSpelled_escaped itself.1, itself.2]
  next unmarked =>
  split
  · next same => exact same ▸ readSpelled_escaped rfl rest
  split
  · next same => exact same ▸ readSpelled_escaped rfl rest
  split
  · next same => exact same ▸ readSpelled_escaped rfl rest
  split
  · exact readSpelled_bare (mt .inr unmarked) rest
  split
  · next small => exact readSpelled_hexDigits (c := .char c) rfl small rest
  split
  · next small => exact readSpelled_hexDigits (c := .char c) rfl small rest
  · exact readSpelled_hexDigits (c := .char c) rfl (toNat_lt_pow c) rest

/-- A mark ends what is quoted, for no spelling begins with it. -/
theorem spelled_append_ne {mark : Char} (quotes : mark = '\'' ∨ mark = '"') (c : CodePoint) (rest more : List Char) :
    spelled mark c ++ rest ≠ mark :: more := by
  intro same
  have bare : mark ≠ '\\' := by rcases quotes with rfl | rfl <;> decide
  -- only the mark itself could be read there, and that is spelled with a backslash
  have read := readSpelled_spelled quotes c rest
  rw [same, readSpelled_bare bare, Option.some.injEq, Prod.mk.injEq] at read
  rw [← read.1, spelled, if_pos (.inl rfl)] at same
  exact bare (List.cons.inj same).1.symm

/-! ## Texts -/

theorem flatMap_spelled_inj {mark : Char} (quotes : mark = '\'' ∨ mark = '"') {text other : List CodePoint}
    {rest more : List Char}
    (same : text.flatMap (spelled mark) ++ mark :: rest = other.flatMap (spelled mark) ++ mark :: more) :
    text = other ∧ rest = more := by
  induction text generalizing other with
  | nil =>
    cases other with
    | nil => exact ⟨rfl, (List.cons.inj same).2⟩
    | cons d other =>
      rw [List.flatMap_cons, List.append_assoc] at same
      exact absurd same.symm (spelled_append_ne quotes d _ _)
  | cons c text ih =>
    cases other with
    | nil =>
      rw [List.flatMap_cons, List.append_assoc] at same
      exact absurd same (spelled_append_ne quotes c _ _)
    | cons d other =>
      rw [List.flatMap_cons, List.flatMap_cons, List.append_assoc, List.append_assoc] at same
      have read := congrArg readSpelled same
      rw [readSpelled_spelled quotes, readSpelled_spelled quotes, Option.some.injEq, Prod.mk.injEq] at read
      obtain ⟨rfl, later⟩ := read
      obtain ⟨rfl, ends⟩ := ih later
      exact ⟨rfl, ends⟩

/-- What a text in quotes is, and where it ends, can be told from any text that begins with it. -/
theorem quote_append_inj {text other : List CodePoint} {rest more : List Char}
    (same : quote text ++ rest = quote other ++ more) :
    text = other ∧ rest = more := by
  simp only [quote, List.cons_append, List.append_assoc, List.cons.injEq] at same
  obtain ⟨marks, spellings⟩ := same
  rw [← marks] at spellings
  exact flatMap_spelled_inj (quoteFor_eq_or text) spellings

end Pushbutton.Text
