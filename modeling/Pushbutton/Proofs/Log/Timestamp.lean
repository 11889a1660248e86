import Pushbutton.Log.Timestamp

/-! Moments that have a date. A date has a year from 1 to 9999, and these years are told by the seconds with which the
first of them begins and the last one ends. -/

set_option autoImplicit false

namespace Pushbutton.Timestamp

/-- The second lies in a year from 1 to 9999. -/
def Dated (seconds : Int) : Prop := -62135596800 ≤ seconds ∧ seconds ≤ 253402300799

instance (seconds : Int) : Decidable (Dated seconds) := inferInstanceAs (Decidable (_ ∧ _))

/-- Years that start in March have their last two months, which belong to the next year, from day 306 on. -/
theorem month_le_two_iff {inYear : Nat} (inside : inYear ≤ 365) :
    (if (5 * inYear + 2) / 153 < 10 then (5 * inYear + 2) / 153 + 3 else (5 * inYear + 2) / 153 - 9) ≤ 2 ↔
      306 ≤ inYear := by
  split <;> omega

theorem year_civil_iff (day : Int) :
    1 ≤ (civil day).1 ∧ (civil day).1 ≤ 9999 ↔ -719162 ≤ day ∧ day ≤ 2932896 := by
  simp only [civil]
  rw [Int.fdiv_eq_ediv_of_nonneg _ (by decide)]
  generalize eras : (day + 719468) / 146097 = era
  generalize left : (day + 719468 - era * 146097).toNat = inEra
  generalize counted : (inEra - inEra / 1460 + inEra / 36524 - inEra / 146096) / 365 = year
  generalize rest : inEra - (365 * year + year / 4 - year / 100) = inYear
  have ends : year = 0 ∨ year = 399 ∨ 0 < year ∧ year < 399 := by omega
  -- only in the first and the last year of an era it matters which month it is
  rcases ends with first | last | ⟨after, before⟩
  · have inside : inYear ≤ 365 := by omega
    simp only [month_le_two_iff inside]
    split <;> omega
  · have inside : inYear ≤ 365 := by omega
    simp only [month_le_two_iff inside]
    split <;> omega
  · have early : 306 ≤ inEra := by omega
    have late : inEra ≤ 146036 := by omega
    clear rest counted
    split <;> omega

theorem dated_iff (seconds : Int) :
    Dated seconds ↔ -719162 ≤ seconds.fdiv 86400 ∧ seconds.fdiv 86400 ≤ 2932896 := by
  rw [Int.fdiv_eq_ediv_of_nonneg _ (by decide), Dated]
  omega

theorem exists_text_iff (seconds : Int) (millionths : Nat) :
    (∃ shown, text seconds millionths = .ok shown) ↔ Dated seconds := by
  constructor
  · rintro ⟨shown, told⟩
    simp only [text] at told
    rw [dated_iff, ← year_civil_iff]
    split at told
    · cases told
    split at told
    · cases told
    split at told
    · cases told
    · next inside => omega
  · intro dated
    obtain ⟨first, last⟩ := (year_civil_iff _).mpr ((dated_iff seconds).mp dated)
    have word : isWord seconds = true := by
      simp only [isWord, Bool.and_eq_true, decide_eq_true_eq]
      unfold Dated at dated
      omega
    have halfWord : isHalfWord ((civil (seconds.fdiv 86400)).1 - 1900) = true := by
      simp only [isHalfWord, Bool.and_eq_true, decide_eq_true_eq]
      omega
    have inside : ¬ ((civil (seconds.fdiv 86400)).1 < 1 ∨ 9999 < (civil (seconds.fdiv 86400)).1) := by omega
    simp only [text, word, halfWord, Bool.not_true, Bool.false_eq_true, if_false, if_neg inside]
    exact ⟨_, rfl⟩

end Pushbutton.Timestamp
