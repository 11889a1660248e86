import Pushbutton.Text.Split

/-! Texts joined with a separator. They can be told apart again where the separator begins with a character that is
found nowhere else. -/

set_option autoImplicit false

namespace Pushbutton.Text

theorem split_of_not_mem {mark : Char} {text : List Char} (whole : mark ∉ text) : split mark text = [text] := by
  induction text with
  | nil => rfl
  | cons c rest ih =>
    rw [List.mem_cons, not_or] at whole
    rw [split, if_neg (Ne.symm whole.1), ih whole.2]

theorem split_intercalate {mark : Char} {gap first : List Char} {rest : List (List Char)} (free : mark ∉ gap)
    (whole : ∀ part ∈ first :: rest, mark ∉ part) :
    split mark ((mark :: gap).intercalate (first :: rest)) = first :: rest.map (gap ++ ·) := by
  induction rest generalizing first with
  | nil => simp [split_of_not_mem (whole first List.mem_cons_self)]
  | cons second rest ih =>
    obtain ⟨head, tail⟩ := List.forall_mem_cons.mp whole
    obtain ⟨next, later⟩ := List.forall_mem_cons.mp tail
    have moved : gap ++ (mark :: gap).intercalate (second :: rest) =
        (mark :: gap).intercalate ((gap ++ second) :: rest) := by
      cases rest <;> simp [List.intercalate_cons_cons]
    have gapped : mark ∉ gap ++ second := by simp [free, next]
    rw [List.intercalate_cons_cons, List.append_assoc, List.cons_append, split_append, split_of_not_mem head, moved,
      ih (List.forall_mem_cons.mpr ⟨gapped, later⟩)]
    rfl

theorem join_eq_intercalate (mark : Char) (parts : List (List Char)) : join mark parts = [mark].intercalate parts := by
  induction parts with
  | nil => rfl
  | cons first rest ih =>
    cases rest with
    | nil => simp [join]
    | cons second rest => rw [join, ih, List.intercalate_cons_cons, List.append_assoc, List.singleton_append]

theorem intercalate_parts (mark : Char) (text : String) :
    (String.singleton mark).intercalate (parts mark text) = text := by
  rw [← String.toList_inj, String.toList_intercalate, parts, List.map_map, String.toList_singleton,
    ← join_eq_intercalate]
  simp [Function.comp_def, join_split]

theorem parts_append (mark : Char) (before after : String) :
    parts mark (before ++ String.singleton mark ++ after) = parts mark before ++ parts mark after := by
  simp [parts, split_append]

/-- Where the character stands for the first time can be told from the text. -/
theorem append_cons_inj {mark : Char} {first second rest more : List Char} (free : mark ∉ first)
    (freeToo : mark ∉ second) (same : first ++ mark :: rest = second ++ mark :: more) :
    first = second ∧ rest = more := by
  have parts := congrArg (split mark) same
  rw [split_append, split_append, split_of_not_mem free, split_of_not_mem freeToo] at parts
  obtain rfl := (List.cons.inj parts).1
  exact ⟨rfl, (List.cons.inj (List.append_cancel_left same)).2⟩

theorem parts_intercalate {mark : Char} {first : String} {rest : List String}
    (whole : ∀ part ∈ first :: rest, mark ∉ part.toList) :
    parts mark ((String.singleton mark).intercalate (first :: rest)) = first :: rest := by
  have free : ∀ part ∈ first.toList :: rest.map String.toList, mark ∉ part := by
    rw [← List.map_cons, List.forall_mem_map]
    exact whole
  rw [parts, String.toList_intercalate, String.toList_singleton, List.map_cons,
    split_intercalate List.not_mem_nil free, List.map_cons, String.ofList_toList]
  simp [Function.comp_def]

theorem eq_of_intercalate_eq {mark : Char} {gap first other : List Char} {rest others : List (List Char)}
    (free : mark ∉ gap) (whole : ∀ part ∈ first :: rest, mark ∉ part)
    (wholeToo : ∀ part ∈ other :: others, mark ∉ part)
    (same : (mark :: gap).intercalate (first :: rest) = (mark :: gap).intercalate (other :: others)) :
    first :: rest = other :: others := by
  have split := congrArg (split mark) same
  rw [split_intercalate free whole, split_intercalate free wholeToo, List.cons.injEq] at split
  rw [split.1, List.map_inj_right (fun _ _ => List.append_cancel_left) |>.mp split.2]

theorem mem_intercalate {separator : String} {parts : List String} {c : Char}
    (member : c ∈ (separator.intercalate parts).toList) :
    c ∈ separator.toList ∨ ∃ part ∈ parts, c ∈ part.toList := by
  induction parts with
  | nil => simp at member
  | cons first rest ih =>
    cases rest with
    | nil => exact .inr ⟨first, List.mem_cons_self, by simpa using member⟩
    | cons second rest =>
      rw [String.intercalate_cons_cons, String.toList_append, String.toList_append, List.mem_append,
        List.mem_append] at member
      rcases member with (member | between) | member
      · exact .inr ⟨first, List.mem_cons_self, member⟩
      · exact .inl between
      · rcases ih member with between | ⟨part, there, member⟩
        · exact .inl between
        · exact .inr ⟨part, List.mem_cons_of_mem _ there, member⟩

end Pushbutton.Text
