import Pushbutton.Proofs.Workflow.Record

/-! The grammar of records: which JSON values are records of which workflows. What a record says stands in its
members of known names, in any order. -/

set_option autoImplicit false

namespace Pushbutton

/-! ## The grammar -/

namespace Grammar

inductive Given : Option Json → Option Text → Prop
  | absent : Given none none
  | null : Given (some .null) none
  | given (text : Text) : Given (some (.str text)) (some text)

/-- The parameters stand in an object, each under its name. Without an object there are none. -/
inductive Config : Option Json → Params → Prop
  | absent : Config none {}
  | null : Config (some .null) {}
  | given {members : Table Text Json} {params : Params}
    (fields : ∀ field : Field, Given (members.get? field.name) (params.get field)) :
    Config (some (.obj members)) params

def HasId (members : Table Text Json) (id : Text) : Prop := members.get? "id" = some (.str id) ∧ id ≠ ""

def HasKind (members : Table Text Json) (kind : Kind) : Prop := members.get? "type" = some (.str kind.name)

inductive Entry : Json → Action → Prop
  | given {members : Table Text Json} {action : Action} (id : HasId members action.id)
    (kind : HasKind members action.kind) (config : Config (members.get? "config") action.params) :
    Entry (.obj members) action

inductive Listed : Option Json → List Json → Prop
  | absent : Listed none []
  | given (entries : List Json) : Listed (some (.arr entries)) entries

inductive Record : Json → Workflow → Prop
  | given {members : Table Text Json} {label : Option Text} {entries : List Json} {actions : List Action}
    (labelled : Given (members.get? "buttonLabel") label) (listed : Listed (members.get? "actions") entries)
    (read : List.Forall₂ Entry entries actions) (distinct : (actions.map (·.id)).Nodup) :
    Record (.obj members) ⟨label.getD "", actions⟩

end Grammar

/-! ## Reading by the grammar -/

namespace Params

theorem check_eq_ok_iff {members : Table Text Json} {field : Field} {given : Option Text} :
    check members field = .ok given ↔ Grammar.Given (members.get? field.name) given := by
  unfold check
  generalize members.get? field.name = held
  constructor
  · intro checked
    match held with
    | none => cases checked; exact .absent
    | some .null => cases checked; exact .null
    | some (.str text) => cases checked; exact .given text
    | some (.bool _) | some (.int _) | some (.float _) | some (.arr _) | some (.obj _) => cases checked
  · intro text
    cases text <;> rfl

theorem ofMembers_eq_ok_iff {members : Table Text Json} {params : Params} :
    ofMembers members = .ok params ↔
      ∀ field : Field, Grammar.Given (members.get? field.name) (params.get field) := by
  simp only [← check_eq_ok_iff]
  constructor
  · intro read
    -- a fault of one field is a fault of all of them together
    unfold ofMembers at read
    cases message : check members .message <;> cases text : check members .text <;>
      cases imageUrl : check members .imageUrl <;> cases key : check members .key <;>
      cases value : check members .value <;> cases color : check members .color <;>
      simp only [message, text, imageUrl, key, value, color, Checked.both] at read <;> cases read
    intro field
    cases field <;> assumption
  · intro fields
    simp only [ofMembers, fields, Checked.both]
    rfl

end Params

namespace Action

variable {members : Table Text Json}

theorem readKind_eq_ok_iff {kind : Kind} :
    readKind ((members.get? "type").getD .null) = .ok kind ↔ Grammar.HasKind members kind := by
  unfold Grammar.HasKind readKind
  generalize members.get? "type" = given
  constructor
  · intro read
    split at read
    · next known =>
      cases read
      have named := Kind.ofJson?_eq_some_iff.mp known
      cases given with
      | none => cases named
      | some => exact congrArg some named
    · cases read
  · intro known
    simp only [known, Option.getD_some, Kind.ofJson?_name]

theorem readParams_eq_ok_iff {id : Text} {params : Params} :
    readParams id ((members.get? "config").getD .null) = .ok params ↔
      Grammar.Config (members.get? "config") params := by
  generalize members.get? "config" = given
  constructor
  · intro read
    match given with
    | none => cases read; exact .absent
    | some .null => cases read; exact .null
    | some (.obj fields) =>
      simp only [Option.getD_some, readParams] at read
      split at read
      · next readFields => cases read; exact .given (Params.ofMembers_eq_ok_iff.mp readFields)
      · cases read
    | some (.bool _) | some (.int _) | some (.float _) | some (.str _) | some (.arr _) => cases read
  · intro config
    cases config with
    | absent | null => rfl
    | given fields => simp only [Option.getD_some, readParams, Params.ofMembers_eq_ok_iff.mpr fields]

theorem ofJson_iff_entry {value : Json} {action : Action} :
    ofJson value = .ok action ↔ Grammar.Entry value action := by
  constructor
  · intro read
    cases value with
    | obj members =>
      obtain ⟨id, kind, params⟩ := ofJson_eq_ok_iff.mp read
      exact .given (readId_eq_ok_iff.mp id) (readKind_eq_ok_iff.mp kind) (readParams_eq_ok_iff.mp params)
    | _ => cases read
  · intro entry
    obtain ⟨id, kind, config⟩ := entry
    exact ofJson_eq_ok_iff.mpr
      ⟨readId_eq_ok_iff.mpr id, readKind_eq_ok_iff.mpr kind, readParams_eq_ok_iff.mpr config⟩

end Action

namespace Workflow

variable {members : Table Text Json}

theorem readLabel_eq_ok_iff {label : Text} :
    readLabel members = .ok label ↔
      ∃ given, Grammar.Given (members.get? "buttonLabel") given ∧ given.getD "" = label := by
  unfold readLabel
  generalize members.get? "buttonLabel" = held
  constructor
  · intro read
    split at read <;> cases read
    · exact ⟨none, .absent, rfl⟩
    · exact ⟨none, .null, rfl⟩
    · exact ⟨some label, .given label, rfl⟩
  · intro labelled
    obtain ⟨_, text, rfl⟩ := labelled
    cases text <;> rfl

theorem readEntries_eq_ok_iff {entries : List Json} :
    readEntries members = .ok entries ↔ Grammar.Listed (members.get? "actions") entries := by
  unfold readEntries
  generalize members.get? "actions" = held
  constructor
  · intro read
    split at read <;> cases read
    · exact .absent
    · exact .given entries
  · intro listed
    cases listed <;> rfl

theorem readActions_eq_ok_iff {entries : List Json} {actions : List Action} :
    readActions entries = .ok actions ↔ List.Forall₂ Grammar.Entry entries actions := by
  induction entries generalizing actions with
  | nil =>
    rw [List.forall₂_nil_left_iff, readActions, Except.ok.injEq, eq_comm]
  | cons entry rest ih =>
    simp only [readActions, bind_eq_ok_iff, List.forall₂_cons_left_iff, ih, Action.ofJson_iff_entry]
    constructor
    · intro read
      obtain ⟨action, first, others, later, same⟩ := read
      cases same
      exact ⟨action, others, first, later, rfl⟩
    · intro entriesRead
      obtain ⟨action, others, first, later, rfl⟩ := entriesRead
      exact ⟨action, first, others, later, rfl⟩

theorem ofJson_iff_record {value : Json} {workflow : Workflow} :
    ofJson value = .ok workflow ↔ Grammar.Record value workflow := by
  constructor
  · intro read
    cases value with
    | obj members =>
      simp only [ofJson_eq_ok_iff, readLabel_eq_ok_iff, readEntries_eq_ok_iff, readActions_eq_ok_iff] at read
      obtain ⟨⟨given, labelled, same⟩, ⟨entries, listed, entriesRead⟩, distinct⟩ := read
      obtain ⟨label, actions⟩ := workflow
      cases same
      exact .given labelled listed entriesRead distinct
    | _ => cases read
  · intro record
    obtain ⟨labelled, listed, entriesRead, distinct⟩ := record
    simp only [ofJson_eq_ok_iff, readLabel_eq_ok_iff, readEntries_eq_ok_iff, readActions_eq_ok_iff]
    exact ⟨⟨_, labelled, rfl⟩, ⟨_, listed, entriesRead⟩, distinct⟩

end Workflow

/-! ## What is passed over -/

namespace Grammar

/-- Objects are alike when their known members are. Any other value is like itself alone. -/
inductive Alike (known : List Text) (inside : Text → Json → Json → Prop) : Json → Json → Prop
  | same (value : Json) : Alike known inside value value
  | rearranged {members others : Table Text Json} (alike : Table.Alike known inside members others) :
    Alike known inside (.obj members) (.obj others)

def ConfigAlike : Json → Json → Prop := Alike (Field.all.map fun field => (field.name : Text)) fun _ => Eq

def EntryAlike : Json → Json → Prop :=
  Alike ["id", "type", "config"] fun name => if name = "config" then ConfigAlike else Eq

inductive ActionsAlike : Json → Json → Prop
  | same (value : Json) : ActionsAlike value value
  | entries {entries others : List Json} (alike : List.Forall₂ EntryAlike entries others) :
    ActionsAlike (.arr entries) (.arr others)

def RecordAlike : Json → Json → Prop :=
  Alike ["buttonLabel", "actions"] fun name => if name = "actions" then ActionsAlike else Eq

end Grammar

theorem Params.ofMembers_congr {members others : Table Text Json}
    (same : ∀ field : Field, members.get? field.name = others.get? field.name) :
    ofMembers others = ofMembers members := by
  have checks : check others = check members := by
    funext field
    rw [check, check, same]
  simp only [ofMembers, checks]

namespace Action

theorem readParams_alike {given other : Option Json} (alike : Option.Rel Grammar.ConfigAlike given other)
    (id : Text) : readParams id (other.getD .null) = readParams id (given.getD .null) := by
  cases alike with
  | none => rfl
  | some inside =>
    cases inside with
    | same => rfl
    | rearranged alike =>
      have same (field : Field) := alike.get?_eq field.name (List.mem_map.mpr ⟨field, field.mem_all, rfl⟩) rfl
      simp only [Option.getD_some, readParams, Params.ofMembers_congr same]

theorem ofJson_alike {entry other : Json} (alike : Grammar.EntryAlike entry other) :
    ofJson other = ofJson entry := by
  cases alike with
  | same => rfl
  | rearranged alike =>
    have id := alike.get?_eq "id" (by simp) (by simp)
    have kind := alike.get?_eq "type" (by simp) (by simp)
    have config := readParams_alike (alike.get? "config" (by simp))
    simp only [ofJson, readId, id, kind, config]

end Action

namespace Workflow

theorem readActions_alike {entries others : List Json}
    (alike : List.Forall₂ Grammar.EntryAlike entries others) :
    readActions others = readActions entries := by
  induction alike with
  | nil => rfl
  | cons first _ ih => rw [readActions, readActions, Action.ofJson_alike first, ih]

theorem readEntries_alike {members others : Table Text Json}
    (alike : Option.Rel Grammar.ActionsAlike (members.get? "actions") (others.get? "actions")) :
    (readEntries others >>= readActions) = (readEntries members >>= readActions) := by
  unfold readEntries
  generalize members.get? "actions" = given at *
  generalize others.get? "actions" = other at *
  cases alike with
  | none => rfl
  | some inside =>
    cases inside with
    | same => rfl
    | entries alike => exact readActions_alike alike

theorem ofJson_alike {value other : Json} (alike : Grammar.RecordAlike value other) :
    ofJson other = ofJson value := by
  cases alike with
  | same => rfl
  | rearranged alike =>
    have label := alike.get?_eq "buttonLabel" (by simp) (by simp)
    have actions := readEntries_alike (alike.get? "actions" (by simp))
    simp only [ofJson, readLabel, label, ← bind_assoc, actions]

end Workflow

end Pushbutton
