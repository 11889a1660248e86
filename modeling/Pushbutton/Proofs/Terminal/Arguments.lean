import Mathlib.Data.List.Forall2
import Mathlib.Data.List.TakeDrop
import Pushbutton.Terminal.Arguments

/-! Arguments in their plain order: the values of the positionals, and then options, each with its value in an
argument of its own. -/

set_option autoImplicit false

namespace Pushbutton.Terminal

namespace Rules

variable (rules : Rules)

structure ReadsValue (text : String) : Prop where
  solid : text ≠ "--"
  role : rules.role text = .ok .argument

/-- The option is known under its first name, and takes the value. -/
structure ReadsOption (rule : OptionRule) (value : String) : Prop where
  solid : rule.key ≠ "--"
  role : rules.role rule.key = .ok (.option { rule, name := rule.key })
  takes : ∃ complaint?, rule.use = .value complaint? ∧ complaint? value = none
  value : rules.ReadsValue value

def Fits (rule : PositionalRule) (value : String) : Prop :=
  rule.takesRest = false ∧ rule.complaint? value = none ∧ rules.ReadsValue value

theorem readsValue_of_fits {positionals : List PositionalRule} {values : List String}
    (fit : List.Forall₂ rules.Fits positionals values) : ∀ value ∈ values, rules.ReadsValue value := by
  induction fit with
  | nil => simp
  | cons fits _ ih => exact List.forall_mem_cons.mpr ⟨fits.2.2, ih⟩

theorem classify_eq {items : List Item}
    (known : ∀ item ∈ items, item.text ≠ "--" ∧ rules.role item.text = .ok item.role) :
    rules.classify (items.map (·.text)) = .ok items := by
  induction items with
  | nil => rfl
  | cons item rest ih =>
    obtain ⟨⟨solid, role⟩, others⟩ := List.forall_mem_cons.mp known
    rw [List.map_cons, classify, if_neg solid, role, ih others]
    rfl

def valueItem (value : String) : Item := ⟨value, .argument⟩

def optionItems (option : OptionRule × String) : List Item :=
  [⟨option.1.key, .option { rule := option.1, name := option.1.key }⟩, valueItem option.2]

theorem takePositional_value (value : String) {rest : List Item}
    (stops : ∀ item ∈ rest.head?, item.isDashes = false) :
    takePositional false (valueItem value :: rest) = some ([valueItem value], rest) := by
  have after : rest.span Item.isDashes = ([], rest) := by
    rw [List.span_eq_takeWhile_dropWhile]
    cases rest with
    | nil => rfl
    | cons item rest => simp [stops item rfl]
  have before : (valueItem value :: rest).span Item.isDashes = ([], valueItem value :: rest) := rfl
  rw [takePositional, before]
  simp only [after]
  rfl

theorem takePositionals_values {positionals : List PositionalRule} {values : List String}
    (fit : List.Forall₂ rules.Fits positionals values) (reading : Reading) {rest : List Item}
    (stops : ∀ item ∈ rest.head?, item.isDashes = false) :
    rules.takePositionals reading positionals (values.map valueItem ++ rest) =
      .ok ({ reading with positionals := reading.positionals ++ values.map ([·]) }, [], rest) := by
  induction fit generalizing reading with
  | nil => simp [takePositionals]
  | @cons rule value positionals values fits _ ih =>
    obtain ⟨single, fine, solid, _⟩ := fits
    -- what follows a value is another value, or else what follows them all
    have next : ∀ item ∈ (values.map valueItem ++ rest).head?, item.isDashes = false := by
      cases values with
      | nil => exact stops
      | cons value values => rintro _ ⟨⟩; rfl
    have text : valuesOf false [valueItem value] = [value] := by
      simp [valuesOf, valueItem, solid]
    rw [List.map_cons, List.cons_append, takePositionals, single, takePositional_value value next]
    simp only [text, List.head?_cons, Option.bind_some, fine, ih]
    simp

theorem readItems_nil (turns : Nat) (reading : Reading) (unread : List PositionalRule) :
    rules.readItems turns reading unread [] = .ok (reading, unread) := by
  cases turns <;> simp [readItems]

theorem readItems_option {rule : OptionRule} {value : String} (reads : rules.ReadsOption rule value)
    (turns : Nat) (reading : Reading) (unread : List PositionalRule) (rest : List Item) :
    rules.readItems (turns + 1) reading unread (optionItems (rule, value) ++ rest) =
      rules.readItems turns { reading with options := reading.options ++ [(rule.key, value)] } unread
        rest := by
  obtain ⟨complaint?, takes, fine⟩ := reads.takes
  have wants : rule.takesValue = true := by rw [OptionRule.takesValue, takes]
  have given : rules.give rule value reading =
      .ok { reading with options := reading.options ++ [(rule.key, value)] } := by
    simp only [give, takes, fine]
  simp only [optionItems, List.cons_append, List.nil_append, readItems, takeOption, wants, valueItem,
    Item.isArgument, if_true, given]
  rfl

theorem readItems_options {options : List (OptionRule × String)}
    (reads : ∀ option ∈ options, rules.ReadsOption option.1 option.2) (turns : Nat) (reading : Reading) :
    rules.readItems (options.length + turns) reading [] (options.flatMap optionItems) =
      .ok ({ reading with
        options := reading.options ++ options.map fun option => (option.1.key, option.2) }, []) := by
  induction options generalizing reading with
  | nil => simp [readItems_nil]
  | cons option rest ih =>
    obtain ⟨first, others⟩ := List.forall_mem_cons.mp reads
    have count : (option :: rest).length + turns = rest.length + turns + 1 := by
      rw [List.length_cons]
      omega
    rw [count, List.flatMap_cons, readItems_option rules first, ih others]
    simp

/-- Values for all positionals, and then options. -/
theorem readItems_all {positionals : List PositionalRule} {values : List String}
    {options : List (OptionRule × String)} (fit : List.Forall₂ rules.Fits positionals values)
    (reads : ∀ option ∈ options, rules.ReadsOption option.1 option.2) (turns : Nat) :
    rules.readItems (options.length + turns + 1) {} positionals
        (values.map valueItem ++ options.flatMap optionItems) =
      .ok (⟨options.map fun option => (option.1.key, option.2), values.map ([·]), []⟩, []) := by
  have read := rules.readItems_options reads
  cases values with
  | nil =>
    cases fit
    rw [Nat.add_assoc]
    exact read (turns + 1) {}
  | cons value values =>
    have stops : ∀ item ∈ (options.flatMap optionItems).head?, item.isDashes = false := by
      cases options with
      | nil => nofun
      | cons option rest => rintro _ ⟨⟩; rfl
    have taken := rules.takePositionals_values fit {} stops
    have fewer : (options.flatMap optionItems).length ≤
        (values.map valueItem ++ options.flatMap optionItems).length := by
      rw [List.length_append]
      omega
    simp only [List.map_cons, List.cons_append] at taken ⊢
    simp only [readItems, valueItem, bind, Except.bind] at taken ⊢
    rw [taken]
    simp only [List.length_cons, Nat.add_one_sub_one, fewer, if_true]
    rw [read turns]
    rfl

theorem read_eq {values : List String} {options : List (OptionRule × String)}
    (fit : List.Forall₂ rules.Fits rules.positionals values)
    (reads : ∀ option ∈ options, rules.ReadsOption option.1 option.2) :
    rules.read (values ++ options.flatMap fun option => [option.1.key, option.2]) =
      .ok ⟨options.map fun option => (option.1.key, option.2), values.map ([·]), []⟩ := by
  let items := values.map valueItem ++ options.flatMap optionItems
  have texts : items.map (·.text) = values ++ options.flatMap fun option => [option.1.key, option.2] := by
    simp [items, valueItem, optionItems, List.map_flatMap, Function.comp_def]
  have known : ∀ item ∈ items, item.text ≠ "--" ∧ rules.role item.text = .ok item.role := by
    refine List.forall_mem_append.mpr ⟨?_, ?_⟩
    · intro item member
      obtain ⟨value, there, rfl⟩ := List.mem_map.mp member
      have reads := rules.readsValue_of_fits fit value there
      exact ⟨reads.solid, reads.role⟩
    · intro item member
      obtain ⟨option, there, inside⟩ := List.mem_flatMap.mp member
      have option := reads option there
      simp only [optionItems, List.mem_cons, List.not_mem_nil, or_false] at inside
      rcases inside with rfl | rfl
      · exact ⟨option.solid, option.role⟩
      · exact ⟨option.value.solid, option.value.role⟩
  have classified := rules.classify_eq known
  rw [texts] at classified
  -- every option takes one turn, and all values together take one more
  have turns : items.length = options.length + (values.length + options.length) := by
    have pairs : (options.flatMap optionItems).length = 2 * options.length := by
      simp [optionItems, valueItem]
      omega
    rw [List.length_append, pairs, List.length_map]
    omega
  rw [read, classified]
  simp only [bind, Except.bind]
  rw [turns, rules.readItems_all fit reads]
  rfl

end Rules

end Pushbutton.Terminal
