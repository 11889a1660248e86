import Pushbutton.Proofs.Terminal.Arguments
import Pushbutton.Terminal.Command

/-! The two levels at which the arguments of a command are read: the name of the command with all that follows
it, and then its own arguments. -/

set_option autoImplicit false

namespace Pushbutton.Terminal

namespace Rules

/-- The option that an argument could mean, if it is the one of this name. -/
def candidate? (text : String) (entry : String × OptionRule) : Option Match :=
  if text.startsWith "--" then
    let (start, attached) :=
      match cut text with
      | some (start, value) => (start, some value)
      | none => (text, none)
    if Text.startsWith start entry.1 then
      some { rule := entry.2, name := entry.1, equals := attached.isSome, attached }
    else none
  else if entry.1 = String.ofList (text.toList.take 2) then
    some { rule := entry.2, name := entry.1, attached := some (String.ofList (text.toList.drop 2)) }
  else if Text.startsWith text entry.1 then some { rule := entry.2, name := entry.1 }
  else none

theorem candidates_eq (rules : Rules) (text : String) :
    rules.candidates text = rules.names.filterMap (candidate? text) := by
  unfold candidates
  split
  · next long =>
    have same (start : String) (attached : Option String) (entries : List (String × OptionRule)) :
        ((entries.filter fun entry => Text.startsWith start entry.1).map fun entry =>
          ({ rule := entry.2, name := entry.1, equals := attached.isSome, attached } : Match)) =
        entries.filterMap fun entry =>
          if Text.startsWith start entry.1 then
            some { rule := entry.2, name := entry.1, equals := attached.isSome, attached }
          else none := by
      induction entries with
      | nil => rfl
      | cons entry rest ih => by_cases starts : Text.startsWith start entry.1 <;> simp [starts, ih]
    simp only [same]
    congr 1
    funext entry
    cases written : cut text <;> simp [candidate?, long, written]
  · next short =>
    simp only
    congr 1
    funext entry
    rw [candidate?, if_neg short]

theorem candidate?_eq_none {text : String} {entry : String × OptionRule}
    (long : Text.startsWith ((cut text).elim text (·.1)) entry.1 = false)
    (whole : Text.startsWith text entry.1 = false) (short : entry.1 ≠ String.ofList (text.toList.take 2)) :
    candidate? text entry = none := by
  unfold candidate?
  split
  · cases written : cut text with
    | none => simpa [written] using long
    | some parts => simpa [written] using long
  · simp [whole]

theorem readsValue_of_startsWith (rules : Rules) {text : String} (plain : Text.startsWith "-" text = false) :
    rules.ReadsValue text := by
  constructor
  · rintro rfl
    exact absurd plain (by decide)
  · simp [role, plain]

theorem candidates_eq_nil_of_readsValue {rules : Rules} {text : String} (reads : rules.ReadsValue text)
    (dash : Text.startsWith "-" text = true) (long : text.length ≠ 1) : rules.candidates text = [] := by
  have role := reads.role
  unfold Rules.role at role
  rw [dash] at role
  simp only [Bool.not_true, Bool.false_eq_true, if_false, if_neg long] at role
  split at role
  · cases role
  · split at role
    · cases role
    · split at role
      · cases role
      · next none => exact none
      · cases role

end Rules

namespace Command

open Rules

/-- Where help is not what the text could mean, the version is the only option left. -/
theorem role_mainRules_of_candidate? {text : String}
    (apart : ∀ name ∈ helpRule.names, candidate? text (name, helpRule) = none) :
    ∃ role, mainRules.role text = .ok role := by
  have few : mainRules.candidates text =
      (candidate? text ("--version", ⟨["--version"], .version⟩)).toList := by
    have names : mainRules.names =
        [("-h", helpRule), ("--help", helpRule), ("--version", ⟨["--version"], .version⟩)] := rfl
    rw [candidates_eq, names, List.filterMap_cons, apart "-h" (by decide), List.filterMap_cons,
      apart "--help" (by decide)]
    cases found : candidate? text ("--version", ⟨["--version"], .version⟩) <;> simp [found]
  unfold Rules.role
  split
  · exact ⟨_, rfl⟩
  · split
    · exact ⟨_, rfl⟩
    · split
      · exact ⟨_, rfl⟩
      · simp only
        split
        · exact ⟨_, rfl⟩
        · rw [few]
          cases candidate? text ("--version", ⟨["--version"], .version⟩) with
          | none =>
            simp only [Option.toList]
            split <;> exact ⟨_, rfl⟩
          | some found => exact ⟨_, rfl⟩

theorem role_mainRules {rules : Rules} (helps : helpRule ∈ rules.options) {text : String}
    (reads : rules.ReadsValue text) : ∃ role, mainRules.role text = .ok role := by
  by_cases option : Text.startsWith "-" text = true ∧ text.length ≠ 1
  · apply role_mainRules_of_candidate?
    intro name member
    have none := candidates_eq_nil_of_readsValue reads option.1 option.2
    rw [candidates_eq, List.filterMap_eq_nil_iff] at none
    exact none _ (List.mem_flatMap.mpr ⟨helpRule, helps, List.mem_map_of_mem member⟩)
  · unfold Rules.role
    split
    · exact ⟨_, rfl⟩
    · next dash =>
      split
      · exact ⟨_, rfl⟩
      · split
        · exact ⟨_, rfl⟩
        · next long => exact absurd ⟨by simpa using dash, long⟩ option

/-- Whatever follows the name of a command is left to the command. -/
theorem read_mainRules {name : String} (known : name ∈ names) {rest : List String}
    (roles : ∀ text ∈ rest, text ≠ "--" ∧ ∃ role, mainRules.role text = .ok role) :
    mainRules.read (name :: rest) = .ok ⟨[], [name :: rest], []⟩ := by
  have items : ∃ items : List Item, items.map (·.text) = rest ∧
      ∀ item ∈ items, item.text ≠ "--" ∧ mainRules.role item.text = .ok item.role := by
    induction rest with
    | nil => exact ⟨[], rfl, by simp⟩
    | cons text rest ih =>
      obtain ⟨⟨solid, role, found⟩, others⟩ := List.forall_mem_cons.mp roles
      obtain ⟨items, texts, all⟩ := ih others
      exact ⟨⟨text, role⟩ :: items, by simp [texts], List.forall_mem_cons.mpr ⟨⟨solid, found⟩, all⟩⟩
  obtain ⟨items, texts, all⟩ := items
  have plain : ∀ name ∈ names, Text.startsWith "-" name = false ∧ choiceComplaint names name = none := by
    decide
  obtain ⟨plain, chosen⟩ := plain name known
  have reads := mainRules.readsValue_of_startsWith plain
  have every : ∀ item ∈ valueItem name :: items,
      item.text ≠ "--" ∧ mainRules.role item.text = .ok item.role :=
    List.forall_mem_cons.mpr ⟨⟨reads.solid, reads.role⟩, all⟩
  have classified := mainRules.classify_eq every
  rw [List.map_cons, texts] at classified
  have taken : mainRules.takePositionals {} mainRules.positionals (valueItem name :: items) =
      .ok (⟨[], [name :: rest], []⟩, [], []) := by
    have all : takePositional true (valueItem name :: items) = some (valueItem name :: items, []) := rfl
    simp only [mainRules, takePositionals, all, valuesOf, List.map_cons, texts]
    simp [valueItem, chosen]
  have text : (valueItem name).text = name := rfl
  rw [text] at classified
  rw [Rules.read, classified]
  simp only [bind, Except.bind, List.length_cons, readItems, valueItem] at taken ⊢
  rw [taken]
  rfl

end Command

end Pushbutton.Terminal
