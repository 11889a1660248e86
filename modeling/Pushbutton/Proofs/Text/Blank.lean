import Mathlib.Data.List.TakeWhile
import Pushbutton.Text.Blank

/-! Text without its ends: what is cut off at either end is of the class, what is left neither begins nor ends with a
character of it, and whatever of the class is put around that is cut off again. -/

set_option autoImplicit false

namespace Pushbutton.Text

variable {drop : Char → Bool}

structure Trimmed (drop : Char → Bool) (text : List Char) : Prop where
  first : ∀ c ∈ text.head?, drop c = false
  last : ∀ c ∈ text.getLast?, drop c = false

theorem Trimmed.dropWhile_eq {text : List Char} (trimmed : Trimmed drop text) (given : text ≠ []) (after : List Char) :
    (text ++ after).dropWhile drop = text ++ after := by
  obtain ⟨c, rest, rfl⟩ := List.exists_cons_of_ne_nil given
  exact List.dropWhile_cons_of_neg (by simp [trimmed.first c rfl])

theorem Trimmed.reverse {text : List Char} (trimmed : Trimmed drop text) : Trimmed drop text.reverse :=
  ⟨by simpa using trimmed.last, by simpa using trimmed.first⟩

theorem trim_padded {before core after : List Char} (front : ∀ c ∈ before, drop c = true)
    (back : ∀ c ∈ after, drop c = true) (trimmed : Trimmed drop core) (given : core ≠ []) :
    trim drop (before ++ core ++ after) = core := by
  have behind : ∀ c ∈ after.reverse, drop c = true := by simpa using back
  have turned := trimmed.reverse.dropWhile_eq (by simpa using given) []
  rw [List.append_nil] at turned
  rw [trim, List.append_assoc, List.dropWhile_append_of_pos front, trimmed.dropWhile_eq given, List.reverse_append,
    List.dropWhile_append_of_pos behind, turned, List.reverse_reverse]

theorem trim_of_forall {text : List Char} (all : ∀ c ∈ text, drop c = true) : trim drop text = [] := by
  have nothing : text.dropWhile drop = [] := by
    rw [← List.append_nil text, List.dropWhile_append_of_pos all, List.dropWhile_nil]
  rw [trim, nothing]
  rfl

theorem first_dropWhile (text : List Char) : ∀ c ∈ (text.dropWhile drop).head?, drop c = false := by
  intro c first
  have not := List.head?_dropWhile_not drop text
  rwa [Option.mem_def.mp first] at not

theorem dropWhile_eq_trim_append (drop : Char → Bool) (text : List Char) :
    ∃ after, text.dropWhile drop = trim drop text ++ after ∧ ∀ c ∈ after, drop c = true := by
  refine ⟨((text.dropWhile drop).reverse.takeWhile drop).reverse, ?_, ?_⟩
  · rw [trim, ← List.reverse_append, List.takeWhile_append_dropWhile, List.reverse_reverse]
  · intro c member
    exact List.mem_takeWhile_imp (List.mem_reverse.mp member)

theorem exists_trim (drop : Char → Bool) (text : List Char) :
    ∃ before after, text = before ++ trim drop text ++ after ∧ (∀ c ∈ before, drop c = true) ∧
      ∀ c ∈ after, drop c = true := by
  obtain ⟨after, rest, back⟩ := dropWhile_eq_trim_append drop text
  refine ⟨text.takeWhile drop, after, ?_, fun c => List.mem_takeWhile_imp, back⟩
  rw [List.append_assoc, ← rest, List.takeWhile_append_dropWhile]

theorem trimmed_trim (text : List Char) : Trimmed drop (trim drop text) := by
  constructor
  · intro c first
    obtain ⟨after, rest, -⟩ := dropWhile_eq_trim_append drop text
    apply first_dropWhile text
    rw [rest, List.head?_append, Option.mem_def.mp first]
    rfl
  · intro c last
    rw [trim, List.getLast?_reverse] at last
    exact first_dropWhile _ c last

end Pushbutton.Text
