import Mathlib.Data.List.Induction
import Pushbutton.Proofs.Text.Numeral
import Pushbutton.Text.Integer

/-! Whole numbers as people type them are not too long to be written again. -/

set_option autoImplicit false

namespace Pushbutton.Text

theorem digitValue?_lt {c : Char} {d : Nat} (digit : digitValue? c = some d) : d < 10 := by
  obtain ⟨start, found, rfl⟩ := Option.map_eq_some_iff.mp digit
  have within := List.find?_some found
  rw [Bool.and_eq_true, decide_eq_true_eq, decide_eq_true_eq] at within
  omega

theorem ungrouped?_lt {text : List Char} {digits : List Nat} (read : ungrouped? text = some digits) :
    ∀ d ∈ digits, d < 10 := by
  fun_induction ungrouped? text generalizing digits with
  | case1 => cases read
  | case2 => cases read
  | case3 c d digit =>
    cases read
    simpa using digitValue?_lt digit
  | case4 c d digit more ih =>
    obtain ⟨rest, found, rfl⟩ := Option.map_eq_some_iff.mp read
    exact List.forall_mem_cons.mpr ⟨digitValue?_lt digit, ih found⟩
  | case5 c d digit next more _ ih =>
    obtain ⟨rest, found, rfl⟩ := Option.map_eq_some_iff.mp read
    exact List.forall_mem_cons.mpr ⟨digitValue?_lt digit, ih found⟩

theorem ofDigitValues_lt {digits : List Nat} (small : ∀ d ∈ digits, d < 10) :
    ofDigitValues digits < 10 ^ digits.length := by
  induction digits using List.reverseRecOn with
  | nil => decide
  | append_singleton digits last ih =>
    obtain ⟨others, last⟩ := List.forall_mem_append.mp small
    have front := ih others
    have value := last _ (List.mem_singleton_self _)
    rw [ofDigitValues, List.foldl_append, List.length_append, List.length_singleton, Nat.pow_succ]
    rw [ofDigitValues] at front
    simp only [List.foldl_cons, List.foldl_nil]
    omega

theorem length_natDigits_le {count n : Nat} (small : n < 10 ^ (count + 1)) :
    (natDigits n).length ≤ count + 1 := by
  induction count generalizing n with
  | zero => rw [natDigits_of_lt (by omega)]; simp
  | succ count ih =>
    by_cases single : n < 10
    · rw [natDigits_of_lt single]
      simp
    · rw [natDigits_of_le (by omega), List.length_append, List.length_singleton]
      have upper : n / 10 < 10 ^ (count + 1) := by
        rw [Nat.pow_succ] at small
        omega
      have := ih upper
      omega

theorem length_natDigits_of_magnitude? {text : List Char} {n : Nat} (read : magnitude? text = some n) :
    (natDigits n).length ≤ digitLimit := by
  unfold magnitude? at read
  split at read
  · next digits ungrouped =>
    split at read
    · next short =>
      cases read
      have below := ofDigitValues_lt (ungrouped?_lt ungrouped)
      obtain ⟨count, limit⟩ : ∃ count, digitLimit = count + 1 := ⟨4299, rfl⟩
      rw [limit] at short ⊢
      exact length_natDigits_le (below.trans_le (Nat.pow_le_pow_right (by decide) short))
    · cases read
  · cases read

/-- What is read as a whole number has no more digits than may be read again. -/
theorem length_natDigits_of_integer? {text : String} {n : Int} (read : integer? text = some n) :
    (natDigits n.natAbs).length ≤ digitLimit := by
  have known {rest : List Char} {n : Nat} (read : magnitude? rest = some n) (sign : Int)
      (unit : sign.natAbs = 1) :
      (natDigits (sign * n).natAbs).length ≤ digitLimit := by
    rw [Int.natAbs_mul, unit, Nat.one_mul, Int.natAbs_natCast]
    exact length_natDigits_of_magnitude? read
  unfold integer? at read
  split at read
  · next rest _ =>
    cases found : magnitude? rest with
    | none => simp [found] at read
    | some magnitude =>
      have same : n = -1 * magnitude := by simpa [found] using read.symm
      exact same ▸ known found (-1) rfl
  all_goals
    obtain ⟨magnitude, found, rfl⟩ := Option.map_eq_some_iff.mp read
    simpa using known found 1 rfl

end Pushbutton.Text
