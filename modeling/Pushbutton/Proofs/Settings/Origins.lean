import Pushbutton.Proofs.Text.Blank
import Pushbutton.Proofs.Text.Joined
import Pushbutton.Settings.Basic

/-! Lists of origins: however origins are spaced and with whatever blank parts between them, they are read as the same
list, and a text is always such a spacing of the origins that are read from it. -/

set_option autoImplicit false

namespace Pushbutton.Settings

open Text

def origin? (part : String) : Option String := if strip part = "" then none else some (strip part)

theorem originList_eq (text : String) : originList text = (parts ',' text).filterMap origin? := rfl

/-- What an origin is read as: it is not empty, there is no comma in it, and it neither begins nor ends with a blank. -/
structure Clean (origin : String) : Prop where
  given : origin ≠ ""
  whole : ',' ∉ origin.toList
  trimmed : Trimmed isBlank origin.toList

def Blank (text : String) : Prop := ∀ c ∈ text.toList, isBlank c = true

instance (text : String) : Decidable (Blank text) := List.decidableBAll _ text.toList

/-- The parts are the origins with blanks around them, and blank parts anywhere between. -/
inductive Spaced : List String → List String → Prop
  | nil : Spaced [] []
  | blank {part : String} {origins parts : List String} (blank : Blank part) (rest : Spaced origins parts) :
      Spaced origins (part :: parts)
  | origin {before origin after : String} {origins parts : List String} (front : Blank before) (back : Blank after)
      (rest : Spaced origins parts) : Spaced (origin :: origins) ((before ++ origin ++ after) :: parts)

theorem Blank.not_mem {text : String} (blank : Blank text) : ',' ∉ text.toList :=
  fun member => absurd (blank _ member) (by decide)

/-! ## One part -/

theorem origin?_of_blank {part : String} (blank : Blank part) : origin? part = none := by
  rw [origin?, strip, trim_of_forall blank]
  rfl

theorem origin?_padded {before origin after : String} (front : Blank before) (back : Blank after)
    (clean : Clean origin) : origin? (before ++ origin ++ after) = some origin := by
  have given : origin.toList ≠ [] := fun empty => clean.given (String.toList_inj.mp empty)
  have stripped : strip (before ++ origin ++ after) = origin := by
    rw [strip, String.toList_append, String.toList_append, trim_padded front back clean.trimmed given,
      String.ofList_toList]
  rw [origin?, stripped, if_neg clean.given]

theorem origin?_cases (part : String) :
    (origin? part = none ∧ Blank part) ∨
    ∃ before origin after, part = before ++ origin ++ after ∧ Blank before ∧ Blank after ∧
      origin ≠ "" ∧ Trimmed isBlank origin.toList ∧ origin? part = some origin := by
  obtain ⟨before, after, whole, front, back⟩ := exists_trim isBlank part.toList
  unfold origin?
  split
  · next empty =>
    rw [strip, String.ofList_eq_empty_iff] at empty
    rw [empty, List.append_nil] at whole
    refine .inl ⟨rfl, ?_⟩
    rw [Blank, whole, List.forall_mem_append]
    exact ⟨front, back⟩
  · next given =>
    refine .inr ⟨String.ofList before, strip part, String.ofList after, ?_, ?_, ?_, given, ?_, rfl⟩
    · rw [← String.toList_inj]
      simpa [strip] using whole
    · simpa [Blank] using front
    · simpa [Blank] using back
    · rw [strip, String.toList_ofList]
      exact trimmed_trim _

/-! ## Lists of parts -/

theorem spaced_filterMap (parts : List String) : Spaced (parts.filterMap origin?) parts := by
  induction parts with
  | nil => exact .nil
  | cons part parts ih =>
    rcases origin?_cases part with ⟨none, blank⟩ | ⟨before, origin, after, whole, front, back, -, -, some⟩
    · rw [List.filterMap_cons_none none]
      exact .blank blank ih
    · rw [List.filterMap_cons_some some, whole]
      exact .origin front back ih

theorem Spaced.filterMap_eq {origins parts : List String} (spaced : Spaced origins parts)
    (clean : ∀ origin ∈ origins, Clean origin) : parts.filterMap origin? = origins := by
  induction spaced with
  | nil => rfl
  | blank blank rest ih => rw [List.filterMap_cons_none (origin?_of_blank blank), ih clean]
  | origin front back rest ih =>
    rw [List.forall_mem_cons] at clean
    rw [List.filterMap_cons_some (origin?_padded front back clean.1), ih clean.2]

theorem Spaced.not_mem {origins parts : List String} (spaced : Spaced origins parts)
    (clean : ∀ origin ∈ origins, Clean origin) : ∀ part ∈ parts, ',' ∉ part.toList := by
  induction spaced with
  | nil => exact fun _ member => nomatch member
  | blank blank rest ih => exact List.forall_mem_cons.mpr ⟨blank.not_mem, ih clean⟩
  | origin front back rest ih =>
    rw [List.forall_mem_cons] at clean
    refine List.forall_mem_cons.mpr ⟨?_, ih clean.2⟩
    simp [front.not_mem, back.not_mem, clean.1.whole]

/-! ## Texts -/

theorem clean_of_mem_originList {text origin : String} (member : origin ∈ originList text) : Clean origin := by
  rw [originList_eq, List.mem_filterMap] at member
  obtain ⟨part, among, found⟩ := member
  obtain ⟨characters, split, rfl⟩ := List.mem_map.mp among
  rcases origin?_cases (String.ofList characters) with
    ⟨none, -⟩ | ⟨before, core, after, whole, -, -, given, trimmed, some⟩
  · rw [none] at found
    cases found
  · obtain rfl := Option.some.inj (some.symm.trans found)
    refine ⟨given, fun comma => not_mem_of_mem_split split ?_, trimmed⟩
    rw [← String.toList_ofList (l := characters), whole]
    simp [comma]

theorem Spaced.originList_eq {origins parts : List String} (spaced : Spaced origins parts)
    (clean : ∀ origin ∈ origins, Clean origin) : originList (",".intercalate parts) = origins := by
  have whole := spaced.not_mem clean
  cases parts with
  | nil =>
    cases spaced
    rfl
  | cons first rest =>
    have split : Text.parts ',' (",".intercalate (first :: rest)) = first :: rest := parts_intercalate whole
    rw [Settings.originList_eq, split, spaced.filterMap_eq clean]

/-- Only clean origins are read from a text, and it is made of them in their order, with blanks around and blank parts
between them. Every other text that is made of them in this way is read as the same list. A comma between two texts
puts their lists one after the other. -/
theorem originList_settles (text : String) :
    (∀ origin ∈ originList text, Clean origin) ∧
    (∃ parts, text = ",".intercalate parts ∧ Spaced (originList text) parts) ∧
    (∀ other, originList (text ++ "," ++ other) = originList text ++ originList other) ∧
    (∀ parts, Spaced (originList text) parts → originList (",".intercalate parts) = originList text) := by
  have clean : ∀ origin ∈ originList text, Clean origin := fun _ => clean_of_mem_originList
  refine ⟨clean, ⟨parts ',' text, (intercalate_parts ',' text).symm, spaced_filterMap _⟩, fun other => ?_,
    fun parts spaced => spaced.originList_eq clean⟩
  have apart : parts ',' (text ++ "," ++ other) = parts ',' text ++ parts ',' other := parts_append ',' text other
  rw [originList_eq, apart, List.filterMap_append]
  rfl

/-! ## Stray blanks -/

def stray : String := ",\u00A0http://a ,, http://b:1\t"

def respaced : List String := ["", "" ++ "http://a" ++ "\n", " ", "\u3000" ++ "http://b:1" ++ ""]

theorem originList_settles_stray :
    originList stray = ["http://a", "http://b:1"] ∧ Spaced (originList stray) respaced ∧
      originList (",".intercalate respaced) = ["http://a", "http://b:1"] := by
  have read : originList stray = ["http://a", "http://b:1"] := by decide
  have spaced : Spaced (originList stray) respaced := by
    rw [read]
    exact .blank (by decide) (.origin (by decide) (by decide)
      (.blank (by decide) (.origin (by decide) (by decide) .nil)))
  obtain ⟨-, -, -, again⟩ := originList_settles stray
  exact ⟨read, spaced, (again respaced spaced).trans read⟩

end Pushbutton.Settings
