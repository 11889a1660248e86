/-! Text in parts: what stands between the occurrences of a character, and how a text begins and ends.
Between two texts that the character joins, the split falls apart in two (`split_append`), no part holds
the character, and the parts joined again are the text. -/

set_option autoImplicit false

namespace Pushbutton.Text

/-- The parts between the occurrences of a character: one more than there are occurrences. -/
def split (mark : Char) : List Char → List (List Char)
  | [] => [[]]
  | c :: rest =>
    if c = mark then [] :: split mark rest
    else
      match split mark rest with
      | [] => [[c]]
      | part :: parts => (c :: part) :: parts

def join (mark : Char) : List (List Char) → List Char
  | [] => []
  | [part] => part
  | part :: next :: parts => part ++ mark :: join mark (next :: parts)

theorem split_ne_nil (mark : Char) (text : List Char) : split mark text ≠ [] := by
  cases text with
  | nil => simp [split]
  | cons c rest =>
    unfold split
    split
    · simp
    · split <;> simp

theorem split_cons_of_ne {mark c : Char} (different : c ≠ mark) (rest : List Char) :
    ∃ part parts, split mark rest = part :: parts ∧ split mark (c :: rest) = (c :: part) :: parts := by
  obtain ⟨part, parts, shape⟩ := List.exists_cons_of_ne_nil (split_ne_nil mark rest)
  exact ⟨part, parts, shape, by simp [split, different, shape]⟩

theorem split_append (mark : Char) (before after : List Char) :
    split mark (before ++ mark :: after) = split mark before ++ split mark after := by
  induction before with
  | nil => simp [split]
  | cons c rest ih =>
    by_cases same : c = mark
    · simp [split, same, ih]
    · obtain ⟨part, parts, shape, split_cons⟩ := split_cons_of_ne same rest
      simp [split, same, ih, shape]

theorem not_mem_of_mem_split {mark : Char} {text part : List Char} (member : part ∈ split mark text) :
    mark ∉ part := by
  induction text generalizing part with
  | nil => simp_all [split]
  | cons c rest ih =>
    by_cases same : c = mark
    · rw [split, if_pos same, List.mem_cons] at member
      rcases member with rfl | member
      · simp
      · exact ih member
    · obtain ⟨first, parts, shape, split_cons⟩ := split_cons_of_ne same rest
      rw [split_cons, List.mem_cons] at member
      rcases member with rfl | member
      · have absent := ih (shape ▸ List.mem_cons_self)
        simpa [absent] using fun h => same h.symm
      · exact ih (shape ▸ List.mem_cons_of_mem _ member)

theorem join_split (mark : Char) (text : List Char) : join mark (split mark text) = text := by
  induction text with
  | nil => rfl
  | cons c rest ih =>
    obtain ⟨first, parts, shape⟩ := List.exists_cons_of_ne_nil (split_ne_nil mark rest)
    rw [shape] at ih
    by_cases same : c = mark
    · simp [split, same, shape, join, ih]
    · cases parts with
      | nil => simp_all [split, join]
      | cons second parts => simp_all [split, join]

def parts (mark : Char) (text : String) : List String := (split mark text.toList).map String.ofList

def startsWith (start text : String) : Bool := start.toList.isPrefixOf text.toList

def endsWith (ending text : String) : Bool := ending.toList.isSuffixOf text.toList

end Pushbutton.Text
