import Mathlib.Tactic.IntervalCases
import Pushbutton.Text.Digit

/-! Numerals and numbers: the digits that a number is written with stand for it again. -/

set_option autoImplicit false

namespace Pushbutton.Text

/-! ## Decimal digits -/

theorem digitsOnto_append (n : Nat) (first rest : List Char) :
    digitsOnto n (first ++ rest) = digitsOnto n first ++ rest := by
  induction n using Nat.strongRecOn generalizing first with
  | ind n ih =>
    unfold digitsOnto
    split
    · rfl
    · next large => exact ih (n / 10) (by omega) (digitChar n :: first)

theorem natDigits_of_lt {n : Nat} (small : n < 10) : natDigits n = [digitChar n] := by
  simp [natDigits, digitsOnto, small]

theorem natDigits_of_le {n : Nat} (large : 10 ≤ n) :
    natDigits n = natDigits (n / 10) ++ [digitChar n] := by
  rw [natDigits, digitsOnto, if_neg (by omega)]
  exact digitsOnto_append (n / 10) [] [digitChar n]

@[simp] theorem toNat_digitChar (n : Nat) : (digitChar n).toNat = 48 + n % 10 := by
  have bound : n % 10 < 10 := Nat.mod_lt _ (by decide)
  unfold digitChar
  generalize n % 10 = digit at bound
  interval_cases digit <;> rfl

theorem isDigit_digitChar (n : Nat) : isDigit (digitChar n) = true := by
  simp only [isDigit, toNat_digitChar, Bool.and_eq_true, decide_eq_true_eq]
  omega

theorem mem_of_isDigit {c : Char} (digit : isDigit c = true) : c ∈ "0123456789".toList := by
  simp only [isDigit, Bool.and_eq_true, decide_eq_true_eq] at digit
  obtain ⟨low, high⟩ := digit
  rw [← Char.ofNat_toNat c]
  generalize c.toNat = code at low high
  interval_cases code <;> decide

theorem isDigit_of_mem_natDigits (n : Nat) : ∀ c ∈ natDigits n, isDigit c = true := by
  induction n using Nat.strongRecOn with
  | ind n ih =>
    intro c member
    by_cases small : n < 10
    · rw [natDigits_of_lt small, List.mem_singleton] at member
      exact member ▸ isDigit_digitChar n
    · rw [natDigits_of_le (by omega), List.mem_append, List.mem_singleton] at member
      rcases member with member | rfl
      · exact ih (n / 10) (by omega) c member
      · exact isDigit_digitChar n

theorem ofDigits_append_digitChar (digits : List Char) (n : Nat) :
    ofDigits (digits ++ [digitChar n]) = 10 * ofDigits digits + n % 10 := by
  simp only [ofDigits, List.foldl_append, List.foldl_cons, List.foldl_nil, toNat_digitChar]
  omega

theorem ofDigits_natDigits (n : Nat) : ofDigits (natDigits n) = n := by
  induction n using Nat.strongRecOn with
  | ind n ih =>
    by_cases small : n < 10
    · have last := ofDigits_append_digitChar [] n
      rw [List.nil_append, Nat.mod_eq_of_lt small] at last
      simpa [natDigits_of_lt small, ofDigits] using last
    · rw [natDigits_of_le (by omega), ofDigits_append_digitChar, ih (n / 10) (by omega)]
      omega

theorem natDigits_eq_cons (n : Nat) :
    ∃ first rest, natDigits n = first :: rest ∧ isDigit first = true ∧ (0 < n → first ≠ '0') := by
  induction n using Nat.strongRecOn with
  | ind n ih =>
    by_cases small : n < 10
    · refine ⟨digitChar n, [], natDigits_of_lt small, isDigit_digitChar n, fun positive zero => ?_⟩
      have code := congrArg Char.toNat zero
      rw [toNat_digitChar, Nat.mod_eq_of_lt small] at code
      have : '0'.toNat = 48 := rfl
      omega
    · obtain ⟨first, rest, shape, digit, nonzero⟩ := ih (n / 10) (by omega)
      refine ⟨first, rest ++ [digitChar n], ?_, digit, fun _ => nonzero (by omega)⟩
      rw [natDigits_of_le (by omega), shape, List.cons_append]

/-! ## Hexadecimal digits -/

theorem hexValue?_hexDigit (n : Nat) : hexValue? (hexDigit n) = some (n % 16) := by
  have bound : n % 16 < 16 := Nat.mod_lt _ (by decide)
  unfold hexDigit
  generalize n % 16 = digit at bound
  interval_cases digit <;> rfl

@[simp] theorem length_hexDigits (width n : Nat) : (hexDigits width n).length = width := by
  induction width generalizing n with
  | zero => rfl
  | succ width ih => simp [hexDigits, ih]

theorem mem_hexDigits {width n : Nat} {c : Char} (member : c ∈ hexDigits width n) :
    c ∈ "0123456789abcdef".toList := by
  induction width generalizing n with
  | zero => cases member
  | succ width ih =>
    rcases List.mem_append.mp member with upper | last
    · exact ih upper
    · have bound : n % 16 < 16 := Nat.mod_lt _ (by decide)
      rw [List.mem_singleton.mp last, hexDigit]
      generalize n % 16 = value at bound
      interval_cases value <;> decide

theorem hexDigits_injective {width n m : Nat} (low : n < 16 ^ width) (small : m < 16 ^ width)
    (same : hexDigits width n = hexDigits width m) : n = m := by
  induction width generalizing n m with
  | zero => omega
  | succ width ih =>
    simp only [hexDigits] at same
    obtain ⟨upper, last⟩ := List.append_inj same (by simp)
    have quotients : n / 16 = m / 16 := ih (by omega) (by omega) upper
    have remainders : some (n % 16) = some (m % 16) := by
      rw [← hexValue?_hexDigit, ← hexValue?_hexDigit, List.singleton_inj.mp last]
    have := Option.some.inj remainders
    omega

theorem lt_pow_hexLength (n : Nat) : n < 16 ^ hexLength n := by
  have exponent : n < 2 ^ (n.log2 + 1) := Nat.lt_log2_self
  have power : 2 ^ (n.log2 + 1) ≤ 2 ^ (4 * hexLength n) :=
    Nat.pow_le_pow_right (by decide) (by unfold hexLength; omega)
  rw [Nat.pow_mul] at power
  exact Nat.lt_of_lt_of_le exponent power

/-- Padding with zeros keeps numbers apart, also those that are longer than the width. -/
theorem hexPadded_injective {width n m : Nat} (same : hexPadded width n = hexPadded width m) : n = m := by
  -- both are written with one number of digits, and with that many they can be told apart
  have widths := congrArg List.length same
  simp only [hexPadded, length_hexDigits] at widths
  have below (k : Nat) : k < 16 ^ max width (hexLength k) :=
    Nat.lt_of_lt_of_le (lt_pow_hexLength k) (Nat.pow_le_pow_right (by decide) (Nat.le_max_right _ _))
  unfold hexPadded at same
  rw [← widths] at same
  exact hexDigits_injective (below n) (widths ▸ below m) same

end Pushbutton.Text
