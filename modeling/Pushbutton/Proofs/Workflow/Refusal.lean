import Pushbutton.Proofs.Workflow.Grammar

/-! Refusals: a value that is no record is refused for the first of its faults. -/

set_option autoImplicit false

namespace Pushbutton

namespace Grammar

/-- The id is looked at first, then the kind, then the parameters. -/
inductive EntryFault : Json → RecordFault → Prop
  | notObject {value : Json} (other : ∀ members, value ≠ .obj members) : EntryFault value .entryNotObject
  | missingId {members : Table Text Json} (nameless : ¬ ∃ id, HasId members id) :
    EntryFault (.obj members) .missingId
  | unknownKind {members : Table Text Json} {id : Text} (named : HasId members id)
    (unknown : ¬ ∃ kind, HasKind members kind) :
    EntryFault (.obj members) (.unknownKind ((members.get? "type").getD .null))
  | badConfig {members : Table Text Json} {id : Text} {kind : Kind} (named : HasId members id)
    (known : HasKind members kind) (bad : ¬ ∃ params, Config (members.get? "config") params) :
    EntryFault (.obj members) (.badConfig id)

/-- Entries have faults of their own before they can repeat an id. -/
inductive Fault : Json → RecordFault → Prop
  | notObject {value : Json} (other : ∀ members, value ≠ .obj members) : Fault value .notObject
  | badLabel {members : Table Text Json} (bad : ¬ ∃ label, Given (members.get? "buttonLabel") label) :
    Fault (.obj members) .badLabel
  | badActions {members : Table Text Json} {label : Option Text}
    (labelled : Given (members.get? "buttonLabel") label)
    (bad : ¬ ∃ entries, Listed (members.get? "actions") entries) : Fault (.obj members) .badActions
  | entry {members : Table Text Json} {label : Option Text} {before after : List Json} {entry : Json}
    {fault : RecordFault} (labelled : Given (members.get? "buttonLabel") label)
    (listed : Listed (members.get? "actions") (before ++ entry :: after))
    (fine : ∀ earlier ∈ before, ∃ action, Entry earlier action) (faulty : EntryFault entry fault) :
    Fault (.obj members) fault
  | duplicateId {members : Table Text Json} {label : Option Text} {entries : List Json}
    {before after : List Action} {action : Action} (labelled : Given (members.get? "buttonLabel") label)
    (listed : Listed (members.get? "actions") entries)
    (read : List.Forall₂ Entry entries (before ++ action :: after))
    (distinct : (before.map (·.id)).Nodup) (repeated : action.id ∈ before.map (·.id)) :
    Fault (.obj members) (.duplicateId action.id)

end Grammar

theorem bind_eq_error_iff {ε α β : Type} {first : Except ε α} {next : α → Except ε β} {fault : ε} :
    first >>= next = .error fault ↔
      first = .error fault ∨ ∃ value, first = .ok value ∧ next value = .error fault := by
  cases first with
  | error other =>
    constructor
    · intro read
      cases read
      exact .inl rfl
    · intro either
      rcases either with same | ⟨_, given, _⟩
      · cases same
        rfl
      · cases given
  | ok value =>
    constructor
    · exact fun read => .inr ⟨value, rfl, read⟩
    · intro either
      rcases either with same | ⟨_, given, read⟩
      · cases same
      · cases given
        exact read

theorem error_iff_of_only {ε α : Type} {read : Except ε α} {only : ε}
    (one : ∀ fault, read = .error fault → fault = only) {fault : ε} :
    read = .error fault ↔ fault = only ∧ ¬ ∃ value, read = .ok value := by
  cases read with
  | error other =>
    have same := one other rfl
    subst same
    constructor
    · intro read
      cases read
      exact ⟨rfl, fun ⟨_, given⟩ => nomatch given⟩
    · intro given
      rw [given.1]
  | ok value =>
    constructor
    · intro read
      cases read
    · intro given
      exact absurd ⟨value, rfl⟩ given.2

/-! ## Entries -/

namespace Action

variable {members : Table Text Json}

theorem readId_fault (fault : RecordFault) (refused : readId members = .error fault) :
    fault = .missingId := by
  unfold readId at refused
  split at refused
  · split at refused <;> cases refused
    rfl
  · cases refused
    rfl

theorem readKind_fault {given : Json} (fault : RecordFault) (refused : readKind given = .error fault) :
    fault = .unknownKind given := by
  unfold readKind at refused
  split at refused <;> cases refused
  rfl

theorem readParams_fault {id : Text} {config : Json} (fault : RecordFault)
    (refused : readParams id config = .error fault) : fault = .badConfig id := by
  unfold readParams at refused
  split at refused
  · cases refused
  · split at refused <;> cases refused
    rfl
  · cases refused
    rfl

theorem ofJson_obj_eq_error_iff {fault : RecordFault} :
    ofJson (.obj members) = .error fault ↔ Grammar.EntryFault (.obj members) fault := by
  simp only [ofJson, bind_eq_error_iff, error_iff_of_only readId_fault, error_iff_of_only readKind_fault,
    error_iff_of_only readParams_fault, readId_eq_ok_iff, readKind_eq_ok_iff, readParams_eq_ok_iff]
  constructor
  · rintro (⟨rfl, nameless⟩ | ⟨id, named, ⟨rfl, unknown⟩ | ⟨kind, known, ⟨rfl, bad⟩ | ⟨_, _, absurd⟩⟩⟩)
    · exact .missingId nameless
    · exact .unknownKind named unknown
    · exact .badConfig named known bad
    · cases absurd
  · intro faulty
    cases faulty with
    | notObject other => exact absurd rfl (other members)
    | missingId nameless => exact .inl ⟨rfl, nameless⟩
    | unknownKind named unknown => exact .inr ⟨_, named, .inl ⟨rfl, unknown⟩⟩
    | badConfig named known bad => exact .inr ⟨_, named, .inr ⟨_, known, .inl ⟨rfl, bad⟩⟩⟩

theorem ofJson_eq_error_iff {value : Json} {fault : RecordFault} :
    ofJson value = .error fault ↔ Grammar.EntryFault value fault := by
  cases value with
  | obj members => exact ofJson_obj_eq_error_iff
  | _ =>
    constructor
    · intro refused
      cases refused
      exact .notObject nofun
    · intro faulty
      cases faulty
      rfl

end Action

/-! ## Records -/

namespace Workflow

variable {members : Table Text Json}

theorem readLabel_fault (fault : RecordFault) (refused : readLabel members = .error fault) :
    fault = .badLabel := by
  unfold readLabel at refused
  split at refused <;> cases refused
  rfl

theorem readEntries_fault (fault : RecordFault) (refused : readEntries members = .error fault) :
    fault = .badActions := by
  unfold readEntries at refused
  split at refused <;> cases refused
  rfl

theorem readActions_eq_error_iff {entries : List Json} {fault : RecordFault} :
    readActions entries = .error fault ↔
      ∃ before entry after, entries = before ++ entry :: after ∧
        (∀ earlier ∈ before, ∃ action, Grammar.Entry earlier action) ∧ Grammar.EntryFault entry fault := by
  induction entries with
  | nil =>
    constructor
    · intro refused
      cases refused
    · intro first
      obtain ⟨before, entry, after, split, _⟩ := first
      cases before <;> cases split
  | cons first rest ih =>
    simp only [readActions, bind_eq_error_iff, ih, Action.ofJson_eq_error_iff, Action.ofJson_iff_entry]
    constructor
    · rintro (faulty | ⟨action, fine, ⟨before, entry, after, rfl, earlier, faulty⟩ | ⟨_, _, absurd⟩⟩)
      · exact ⟨[], first, rest, rfl, by simp, faulty⟩
      · have fine := List.forall_mem_cons.mpr ⟨⟨action, fine⟩, earlier⟩
        exact ⟨first :: before, entry, after, rfl, fine, faulty⟩
      · cases absurd
    · rintro ⟨before, entry, after, split, earlier, faulty⟩
      cases before with
      | nil =>
        cases split
        exact .inl faulty
      | cons action before =>
        cases split
        obtain ⟨⟨action, fine⟩, earlier⟩ := List.forall_mem_cons.mp earlier
        exact .inr ⟨action, fine, .inl ⟨before, entry, after, rfl, earlier, faulty⟩⟩

theorem firstRepeated?_eq_some_iff {seen ids : List Text} {id : Text} :
    firstRepeated? seen ids = some id ↔
      ∃ before after, ids = before ++ id :: after ∧ before.Nodup ∧ (∀ earlier ∈ before, earlier ∉ seen) ∧
        (id ∈ before ∨ id ∈ seen) := by
  induction ids generalizing seen with
  | nil => simp [firstRepeated?]
  | cons first rest ih =>
    by_cases known : first ∈ seen
    · rw [firstRepeated?, if_pos known, Option.some.injEq]
      constructor
      · rintro rfl
        exact ⟨[], rest, rfl, .nil, by simp, .inr known⟩
      · rintro ⟨before, after, split, _, new, _⟩
        cases before with
        | nil => cases split; rfl
        | cons earlier before =>
          cases split
          exact absurd known (new first (by simp))
    · rw [firstRepeated?, if_neg known, ih]
      constructor
      · rintro ⟨before, after, rfl, distinct, new, repeated⟩
        have fresh : first ∉ before := fun again => new first again (by simp)
        refine ⟨first :: before, after, rfl, distinct.cons fresh, ?_, ?_⟩
        · rw [List.forall_mem_cons]
          exact ⟨known, fun earlier member again => new earlier member (by simp [again])⟩
        · rcases repeated with again | again
          · exact .inl (by simp [again])
          · rcases List.mem_cons.mp again with rfl | again
            · exact .inl (by simp)
            · exact .inr again
      · rintro ⟨before, after, split, distinct, new, repeated⟩
        cases before with
        | nil =>
          cases split
          exact absurd repeated (by simp [known])
        | cons earlier before =>
          cases split
          rw [List.nodup_cons] at distinct
          rw [List.forall_mem_cons] at new
          refine ⟨before, after, rfl, distinct.2, fun other member again => ?_, ?_⟩
          · rcases List.mem_cons.mp again with rfl | again
            · exact distinct.1 member
            · exact new.2 other member again
          · rcases repeated with again | again
            · rcases List.mem_cons.mp again with rfl | again
              · exact .inr (by simp)
              · exact .inl again
            · exact .inr (by simp [again])

/-- The members are looked at in turn, and ids only after all of them. -/
theorem ofJson_obj_eq_error_iff {fault : RecordFault} :
    ofJson (.obj members) = .error fault ↔
      readLabel members = .error fault ∨ ∃ label, readLabel members = .ok label ∧
        (readEntries members = .error fault ∨ ∃ entries, readEntries members = .ok entries ∧
          (readActions entries = .error fault ∨ ∃ actions, readActions entries = .ok actions ∧
            ∃ id, firstRepeated? [] (actions.map (·.id)) = some id ∧ fault = .duplicateId id)) := by
  simp only [ofJson, bind_eq_error_iff]
  refine or_congr_right (exists_congr fun label => and_congr_right fun _ => or_congr_right
    (exists_congr fun entries => and_congr_right fun _ => or_congr_right
      (exists_congr fun actions => and_congr_right fun _ => ?_)))
  cases firstRepeated? [] (actions.map (·.id)) with
  | none => simp [pure, Except.pure]
  | some id => simp [eq_comm]

theorem duplicate_iff {actions : List Action} {id : Text} :
    firstRepeated? [] (actions.map (·.id)) = some id ↔
      ∃ before action after, actions = before ++ action :: after ∧ (before.map (·.id)).Nodup ∧
        action.id = id ∧ id ∈ before.map (·.id) := by
  rw [firstRepeated?_eq_some_iff]
  constructor
  · rintro ⟨_, _, mapped, distinct, _, repeated⟩
    obtain ⟨before, rest, rfl, rfl, later⟩ := List.map_eq_append_iff.mp mapped
    obtain ⟨action, after, rfl, rfl, rfl⟩ := List.map_eq_cons_iff.mp later
    exact ⟨before, action, after, rfl, distinct, rfl, repeated.resolve_right (by simp)⟩
  · rintro ⟨before, action, after, rfl, distinct, rfl, repeated⟩
    exact ⟨before.map (·.id), after.map (·.id), by simp, distinct, by simp, .inl repeated⟩

theorem ofJson_obj_iff_fault {fault : RecordFault} :
    ofJson (.obj members) = .error fault ↔ Grammar.Fault (.obj members) fault := by
  simp only [ofJson_obj_eq_error_iff, error_iff_of_only readLabel_fault, error_iff_of_only readEntries_fault,
    readLabel_eq_ok_iff, readEntries_eq_ok_iff, readActions_eq_error_iff, readActions_eq_ok_iff, duplicate_iff]
  constructor
  · rintro (⟨rfl, bad⟩ | ⟨_, ⟨label, labelled, _⟩, ⟨rfl, bad⟩ | ⟨entries, listed, late⟩⟩)
    · refine .badLabel fun labelled => ?_
      obtain ⟨label, labelled⟩ := labelled
      exact bad ⟨_, label, labelled, rfl⟩
    · exact .badActions labelled bad
    · rcases late with ⟨before, entry, after, rfl, fine, faulty⟩ |
        ⟨_, read, _, ⟨before, action, after, rfl, distinct, rfl, repeated⟩, rfl⟩
      · exact .entry labelled listed fine faulty
      · exact .duplicateId labelled listed read distinct repeated
  · intro faulty
    cases faulty with
    | notObject other => exact absurd rfl (other members)
    | badLabel bad =>
      refine .inl ⟨rfl, ?_⟩
      rintro ⟨_, label, labelled, -⟩
      exact bad ⟨label, labelled⟩
    | badActions labelled bad => exact .inr ⟨_, ⟨_, labelled, rfl⟩, .inl ⟨rfl, bad⟩⟩
    | entry labelled listed fine faulty =>
      exact .inr ⟨_, ⟨_, labelled, rfl⟩, .inr ⟨_, listed, .inl ⟨_, _, _, rfl, fine, faulty⟩⟩⟩
    | duplicateId labelled listed read distinct repeated =>
      exact .inr ⟨_, ⟨_, labelled, rfl⟩, .inr ⟨_, listed, .inr
        ⟨_, read, _, ⟨_, _, _, rfl, distinct, rfl, repeated⟩, rfl⟩⟩⟩

theorem ofJson_iff_fault {value : Json} {fault : RecordFault} :
    ofJson value = .error fault ↔ Grammar.Fault value fault := by
  cases value with
  | obj members => exact ofJson_obj_iff_fault
  | _ =>
    constructor
    · intro refused
      cases refused
      exact .notObject nofun
    · intro faulty
      cases faulty
      rfl

/-- Reading accepts the records of the grammar, with all that they say and nothing beside it, and names the
first fault of any other value. -/
theorem ofJson_exact (value : Json) :
    (∀ workflow, ofJson value = .ok workflow ↔ Grammar.Record value workflow) ∧
    (∀ fault, ofJson value = .error fault ↔ Grammar.Fault value fault) ∧
    ∀ other, Grammar.RecordAlike value other → ofJson other = ofJson value :=
  ⟨fun _ => ofJson_iff_record, fun _ => ofJson_iff_fault, fun _ => ofJson_alike⟩

end Workflow

end Pushbutton
