import Pushbutton.Proofs.Edit.Basic
import Pushbutton.Proofs.Terminal.Command

/-! The arguments of an edit are read as the command that it is. -/

set_option autoImplicit false

namespace Pushbutton.Edit

open Terminal

def kindRule : OptionRule := ⟨["--type"], .value (Command.choiceComplaint (Kind.all.map Kind.name))⟩

def options (edit : Edit) : List (OptionRule × String) :=
  (edit.kind?.toList.map fun kind => (kindRule, kind.name)) ++
    edit.flags.map fun (field, value) => (Command.anyValue [Command.flagOf field], value)

theorem arguments_eq (edit : Edit) :
    edit.arguments =
      edit.name :: (edit.values ++ edit.options.flatMap fun option => [option.1.key, option.2]) := by
  simp [arguments, options, kindRule, Command.anyValue, OptionRule.key, List.flatMap_map, List.append_assoc]

theorem name_mem_names (edit : Edit) : edit.name ∈ Command.names := by
  cases edit <;> simp [name, Command.names]

theorem readsOption_kind {name : String} (named : name = "add" ∨ name = "update") (kind : Kind) :
    (Command.rulesOf name).ReadsOption kindRule kind.name := by
  have plain : Text.startsWith "-" kind.name = false := by cases kind <;> decide
  have chosen : Command.choiceComplaint (Kind.all.map Kind.name) kind.name = none := by cases kind <;> decide
  constructor
  · decide
  · rcases named with rfl | rfl <;> rfl
  · exact ⟨_, rfl, chosen⟩
  · exact Rules.readsValue_of_startsWith _ plain

theorem readsOption_flag {name : String} (named : name = "add" ∨ name = "update") (field : Field)
    {value : String} (reads : (Command.rulesOf name).ReadsValue value) :
    (Command.rulesOf name).ReadsOption (Command.anyValue [Command.flagOf field]) value := by
  constructor
  · cases field <;> decide
  · rcases named with rfl | rfl <;> cases field <;> rfl
  · exact ⟨_, rfl, rfl⟩
  · exact reads

theorem named_of_mem_options {edit : Edit} {option : OptionRule × String} (member : option ∈ edit.options) :
    edit.name = "add" ∨ edit.name = "update" := by
  cases edit with
  | add => exact .inl rfl
  | update => exact .inr rfl
  | _ => cases member

variable {edit : Edit}

theorem Sayable.readsOption (sayable : edit.Sayable) :
    ∀ option ∈ edit.options, (Command.rulesOf edit.name).ReadsOption option.1 option.2 := by
  intro option member
  have named := named_of_mem_options member
  rcases List.mem_append.mp member with typed | flag
  · obtain ⟨kind, _, rfl⟩ := List.mem_map.mp typed
    exact readsOption_kind named kind
  · obtain ⟨⟨field, value⟩, there, rfl⟩ := List.mem_map.mp flag
    exact readsOption_flag named field
      (sayable.values value (List.mem_append_right _ (List.mem_map.mpr ⟨_, there, rfl⟩)))

theorem Sayable.fits (sayable : edit.Sayable) :
    List.Forall₂ (Command.rulesOf edit.name).Fits (Command.rulesOf edit.name).positionals edit.values := by
  have reads (value : String) (member : value ∈ edit.values) :
      (Command.rulesOf edit.name).ReadsValue value := sayable.values value (List.mem_append_left _ member)
  cases edit with
  | add | clear => exact .nil
  | remove id | update id | label id => exact .cons ⟨rfl, rfl, reads id (List.mem_singleton_self _)⟩ .nil
  | move source target =>
    obtain ⟨whole, wholeTarget⟩ := sayable.positions source target rfl
    have fine {text : String} (whole : (Text.integer? text).isSome) :
        Command.integerComplaint text = none := by
      obtain ⟨n, found⟩ := Option.isSome_iff_exists.mp whole
      rw [Command.integerComplaint, found]
    exact .cons ⟨rfl, fine whole, reads source List.mem_cons_self⟩
      (.cons ⟨rfl, fine wholeTarget, reads target (List.mem_cons_of_mem _ List.mem_cons_self)⟩ .nil)

/-- The main level takes the options of edits for those of others. -/
theorem role_of_mem_options {option : OptionRule × String} (member : option ∈ edit.options) :
    ∃ role, Command.mainRules.role option.1.key = .ok role := by
  apply Command.role_mainRules_of_candidate?
  have key : option.1.key = "--type" ∨ ∃ field, option.1.key = Command.flagOf field := by
    rcases List.mem_append.mp member with typed | flag
    · obtain ⟨kind, _, rfl⟩ := List.mem_map.mp typed
      exact .inl rfl
    · obtain ⟨⟨field, _⟩, _, rfl⟩ := List.mem_map.mp flag
      exact .inr ⟨field, rfl⟩
  have known : option.1.key ∈ "--type" :: Field.all.map Command.flagOf := by
    rcases key with key | ⟨field, key⟩
    · exact key ▸ List.mem_cons_self
    · exact key ▸ List.mem_cons_of_mem _ (List.mem_map_of_mem field.mem_all)
  have apart : ∀ name ∈ Command.helpRule.names, ∀ key ∈ "--type" :: Field.all.map Command.flagOf,
      Text.startsWith ((Rules.cut key).elim key (·.1)) name = false ∧ Text.startsWith key name = false ∧
        name ≠ String.ofList (key.toList.take 2) := by decide
  intro name named
  obtain ⟨long, whole, short⟩ := apart name named _ known
  exact Rules.candidate?_eq_none long whole short

/-- Nothing that stands for an option or for a value stops the reading on the main level. -/
theorem Sayable.roles (sayable : edit.Sayable) :
    ∀ text ∈ edit.values ++ edit.options.flatMap fun option => [option.1.key, option.2],
      text ≠ "--" ∧ ∃ role, Command.mainRules.role text = .ok role := by
  have helps : Command.helpRule ∈ (Command.rulesOf edit.name).options := by
    cases edit <;> exact List.mem_cons_self
  have value {text : String} (reads : (Command.rulesOf edit.name).ReadsValue text) :
      text ≠ "--" ∧ ∃ role, Command.mainRules.role text = .ok role :=
    ⟨reads.solid, Command.role_mainRules helps reads⟩
  intro text member
  rcases List.mem_append.mp member with given | option
  · exact value (sayable.values text (List.mem_append_left _ given))
  · obtain ⟨option, there, inside⟩ := List.mem_flatMap.mp option
    have reads := sayable.readsOption option there
    rcases List.mem_pair.mp inside with rfl | rfl
    · exact ⟨reads.solid, role_of_mem_options there⟩
    · exact value reads.value

/-! ## The command -/

theorem flagOf_injective {field other : Field} (same : Command.flagOf field = Command.flagOf other) :
    field = other := by
  revert same
  cases field <;> cases other <;> decide

theorem flagOf_ne_type (field : Field) : Command.flagOf field ≠ "--type" := by cases field <;> decide

def reading (edit : Edit) : Reading :=
  ⟨edit.options.map fun option => (option.1.key, option.2), edit.values.map ([·]), []⟩

theorem reading_options (edit : Edit) :
    edit.reading.options =
      (edit.kind?.toList.map fun kind => ("--type", kind.name)) ++
        edit.flags.map fun (field, value) => (Command.flagOf field, value) := by
  simp [reading, options, kindRule, Command.anyValue, OptionRule.key, Function.comp_def]

theorem reading_flag (edit : Edit) (field : Field) :
    edit.reading.option? (Command.flagOf field) =
      (edit.flags.reverse.find? fun flag => flag.1 == field).map (·.2) := by
  have same : ((fun entry => entry.1 == Command.flagOf field) ∘ fun flag : Field × String =>
      (Command.flagOf flag.1, flag.2)) = fun flag => flag.1 == field := by
    funext flag
    exact Bool.eq_iff_iff.mpr (by simpa using ⟨flagOf_injective, congrArg Command.flagOf⟩)
  have kind : (edit.kind?.toList.map fun kind => ("--type", kind.name)).reverse.find?
      (fun entry => entry.1 == Command.flagOf field) = none := by
    cases edit.kind? with
    | none => rfl
    | some kind => simp [(flagOf_ne_type field).symm]
  rw [Reading.option?, reading_options, List.reverse_append, List.find?_append, kind, Option.or_none,
    ← List.map_reverse, List.find?_map, same, Option.map_map]
  rfl

theorem reading_type (edit : Edit) : edit.reading.option? "--type" = edit.kind?.map Kind.name := by
  have flags : (edit.flags.map fun flag => (Command.flagOf flag.1, flag.2)).reverse.find?
      (fun entry => entry.1 == "--type") = none := by
    rw [List.find?_eq_none]
    intro entry member
    obtain ⟨flag, _, rfl⟩ := List.mem_map.mp (List.mem_reverse.mp member)
    simpa using flagOf_ne_type flag.1
  rw [Reading.option?, reading_options, List.reverse_append, List.find?_append, flags, Option.none_or]
  cases edit.kind? <;> simp

theorem kindOf_reading (edit : Edit) : Command.kindOf edit.reading = edit.kind? := by
  rw [Command.kindOf, reading_type]
  cases edit.kind? with
  | none => rfl
  | some kind => exact Kind.ofName?_name kind

/-- Parameters are absent only when none is given: the last flag is always found. -/
theorem paramsOf_reading (edit : Edit) : Command.paramsOf edit.reading = paramsOf edit.flags := by
  let given := Params.ofFields fun field => (edit.flags.reverse.find? fun flag => flag.1 == field).map (·.2)
  have empty : given = {} ↔ edit.flags = [] := by
    constructor
    · intro absent
      by_contra some
      obtain ⟨⟨field, value⟩, member⟩ := List.exists_mem_of_ne_nil _ some
      have found : (edit.flags.reverse.find? fun flag => flag.1 == field).isSome :=
        List.find?_isSome.mpr ⟨_, List.mem_reverse.mpr member, by simp⟩
      have none : given.get field = Option.none := by
        rw [absent]
        cases field <;> rfl
      rw [Params.get_ofFields, Option.map_eq_none_iff] at none
      rw [none] at found
      cases found
    · intro none
      simp only [given, none]
      rfl
  simp only [Command.paramsOf, reading_flag, Option.map_map, Function.comp_def, paramsOf]
  by_cases none : edit.flags = []
  · rw [if_pos (empty.mpr none), if_pos none]
  · rw [if_neg (mt empty.mp none), if_neg none]

theorem ofReading_reading (edit : Edit) : Command.ofReading edit.name edit.reading = edit.command := by
  have kind := kindOf_reading edit
  have params := paramsOf_reading edit
  cases edit with
  | add =>
    simp only [kind?, flags] at kind params
    simp only [name, Command.ofReading, command, kind, params]
  | update =>
    simp only [kind?, flags] at kind params
    simp only [name, Command.ofReading, command, kind, params]
    rfl
  | remove | move | label | clear => rfl

theorem Sayable.read_arguments (sayable : edit.Sayable) : Command.read edit.arguments = .ok edit.command := by
  rw [arguments_eq, Command.read, Command.read_mainRules edit.name_mem_names sayable.roles]
  have inner := (Command.rulesOf edit.name).read_eq sayable.fits sayable.readsOption
  simp only [bind, Except.bind, Reading.positional, List.getD_cons_zero, inner, List.append_nil]
  exact congrArg Except.ok (ofReading_reading edit)

end Pushbutton.Edit
