import Pushbutton.Proofs.Json.RoundTrip
import Pushbutton.Proofs.Text.Whole
import Pushbutton.Workflow.Saved

/-! Records: a workflow is read from its own record, and whatever is read from a record is well formed. -/

set_option autoImplicit false

namespace Pushbutton

theorem Field.name_injective : Function.Injective Field.name := by
  intro field other same
  cases field <;> cases other <;> first | rfl | exact absurd same (by decide)

theorem Field.text_name_injective : Function.Injective fun field : Field => (field.name : Text) :=
  fun _ _ same => name_injective (Text.ofString_inj.mp same)

theorem Kind.ofJson?_name (kind : Kind) : ofJson? (.str kind.name) = some kind := by
  rw [ofJson?, Text.string?_ofString, Option.bind_some, ofName?_name]

theorem Kind.ofJson?_eq_some_iff {given : Json} {kind : Kind} : ofJson? given = some kind ↔ given = .str kind.name := by
  constructor
  · intro known
    unfold ofJson? at known
    split at known
    · next name =>
      obtain ⟨string, whole, known⟩ := Option.bind_eq_some_iff.mp known
      rw [Text.string?_eq_some_iff.mp whole, name_of_ofName? known]
    · cases known
  · rintro rfl
    exact ofJson?_name kind

/-! ## Parameters -/

namespace Params

variable (params : Params)

def members (fields : List Field) : List (Text × Json) :=
  (params.present fields).map fun (field, value) => (field.name, .str value)

theorem members_cons (field : Field) (fields : List Field) :
    params.members (field :: fields) =
      match params.get field with
      | some value => (field.name, .str value) :: params.members fields
      | none => params.members fields := by
  cases value : params.get field <;> simp [members, present, value]

theorem names_members (fields : List Field) :
    (Table.names (params.members fields)).Sublist (fields.map fun field => (field.name : Text)) := by
  induction fields with
  | nil => exact .slnil
  | cons field fields ih =>
    rw [members_cons]
    cases params.get field with
    | none => exact ih.cons _
    | some value => exact ih.cons_cons _

theorem get?_members {fields : List Field} (distinct : fields.Nodup) {field : Field} (member : field ∈ fields) :
    Table.get? (params.members fields) field.name = (params.get field).map .str := by
  induction fields with
  | nil => cases member
  | cons first rest ih =>
    rw [List.nodup_cons] at distinct
    rw [members_cons]
    -- a later field has another name, so the first one hides nothing and is found nowhere else
    by_cases same : first = field
    · subst same
      have absent : (first.name : Text) ∉ Table.names (params.members rest) := by
        intro present
        have later := (names_members params rest).mem present
        exact distinct.1 ((List.mem_map_of_injective Field.text_name_injective).mp later)
      cases params.get first with
      | none => exact (Table.get?_eq_none_iff _ _).mpr absent
      | some value => simp [Table.get?]
    · have found := ih distinct.2 ((List.mem_cons.mp member).resolve_left (Ne.symm same))
      have apart : (first.name : Text) ≠ field.name := fun equal => same (Field.text_name_injective equal)
      cases params.get first with
      | none => exact found
      | some value => simpa [Table.get?, apart] using found

theorem check_toMembers (field : Field) : check params.toMembers field = .ok (params.get field) := by
  have found := params.get?_members (by decide : Field.all.Nodup) field.mem_all
  rw [check, toMembers, ← members, found]
  cases params.get field <;> rfl

theorem ofMembers_toMembers : ofMembers params.toMembers = .ok params := by
  simp only [ofMembers, check_toMembers, Checked.both]
  rfl

theorem eq_of_toMembers_eq_nil (empty : params.toMembers = []) : params = {} := by
  have read := params.ofMembers_toMembers
  rw [empty] at read
  exact (Except.ok.inj read).symm

theorem plain_toMembers : (Json.obj params.toMembers).Plain := by
  constructor
  · have fields : (Field.all.map fun field => (field.name : Text)).Nodup := by decide
    exact fields.sublist (params.names_members Field.all)
  · rw [Json.plainMembers_iff, toMembers, List.forall_mem_map]
    exact fun _ _ => trivial

end Params

/-! ## Actions -/

theorem bind_eq_ok_iff {ε α β : Type} {first : Except ε α} {next : α → Except ε β} {result : β} :
    first >>= next = .ok result ↔ ∃ value, first = .ok value ∧ next value = .ok result := by
  cases first with
  | error fault => exact ⟨fun read => (by cases read), fun ⟨_, given, _⟩ => (by cases given)⟩
  | ok value => exact ⟨fun read => ⟨value, rfl, read⟩, fun ⟨_, given, read⟩ => (by cases given; exact read)⟩

namespace Action

theorem ofJson_eq_ok_iff {members : Table Text Json} {action : Action} :
    ofJson (.obj members) = .ok action ↔
      readId members = .ok action.id ∧
      readKind ((members.get? "type").getD .null) = .ok action.kind ∧
      readParams action.id ((members.get? "config").getD .null) = .ok action.params := by
  simp only [ofJson, bind_eq_ok_iff]
  constructor
  · rintro ⟨id, readId, kind, readKind, params, readParams, same⟩
    cases same
    exact ⟨readId, readKind, readParams⟩
  · rintro ⟨readId, readKind, readParams⟩
    exact ⟨action.id, readId, action.kind, readKind, action.params, readParams, rfl⟩

theorem readId_eq_ok_iff {members : Table Text Json} {id : Text} :
    readId members = .ok id ↔ members.get? "id" = some (.str id) ∧ id ≠ "" := by
  unfold readId
  constructor
  · intro read
    split at read
    · next given found =>
      split at read
      · cases read
      · next solid => cases read; exact ⟨found, solid⟩
    · cases read
  · rintro ⟨found, solid⟩
    simp only [found, if_neg solid]

theorem ofJson_toJson {action : Action} (named : action.id ≠ "") : ofJson action.toJson = .ok action := by
  rw [toJson, ofJson_eq_ok_iff, readId_eq_ok_iff]
  refine ⟨⟨rfl, named⟩, ?_, ?_⟩
  · simp [Table.get?, readKind, Kind.ofJson?_name]
  · cases config : action.params.toMembers with
    | nil =>
      -- the record has no member for them, which reads as no parameters
      rw [action.params.eq_of_toMembers_eq_nil config]
      rfl
    | cons first rest =>
      have read := action.params.ofMembers_toMembers
      rw [config] at read
      simp [Table.get?, readParams, read]

theorem plain_toJson (action : Action) : action.toJson.Plain := by
  unfold toJson
  cases config : action.params.toMembers with
  | nil => exact ⟨(by decide : (["id", "type"] : List Text).Nodup), trivial, trivial, trivial⟩
  | cons first rest =>
    have plain := action.params.plain_toMembers
    rw [config] at plain
    exact ⟨(by decide : (["id", "type", "config"] : List Text).Nodup), trivial, trivial, plain, trivial⟩

end Action

/-! ## Workflows -/

namespace Workflow

theorem firstRepeated?_eq_none_iff {seen ids : List Text} :
    firstRepeated? seen ids = none ↔ ids.Nodup ∧ ∀ id ∈ ids, id ∉ seen := by
  induction ids generalizing seen with
  | nil => simp [firstRepeated?]
  | cons id rest ih =>
    -- an id joins the ones seen when it is not among them
    by_cases before : id ∈ seen
    · simp [firstRepeated?, before]
    · rw [firstRepeated?, if_neg before, ih, List.nodup_cons, List.forall_mem_cons]
      simp only [List.mem_cons, not_or]
      constructor
      · rintro ⟨distinct, apart⟩
        exact ⟨⟨fun again => (apart id again).1 rfl, distinct⟩, before,
          fun other later => (apart other later).2⟩
      · rintro ⟨⟨new, distinct⟩, _, apart⟩
        exact ⟨distinct, fun other later => ⟨fun same => new (same ▸ later), apart other later⟩⟩

theorem ofJson_eq_ok_iff {members : Table Text Json} {workflow : Workflow} :
    ofJson (.obj members) = .ok workflow ↔
      readLabel members = .ok workflow.label ∧
      (∃ entries, readEntries members = .ok entries ∧ readActions entries = .ok workflow.actions) ∧
      workflow.ids.Nodup := by
  have none_iff (actions : List Action) :
      firstRepeated? [] (actions.map (·.id)) = none ↔ (actions.map (·.id)).Nodup := by
    simp [firstRepeated?_eq_none_iff]
  simp only [ofJson, bind_eq_ok_iff]
  constructor
  · rintro ⟨label, readLabel, entries, readEntries, actions, readActions, distinct⟩
    split at distinct
    · cases distinct
    · next none =>
      cases distinct
      exact ⟨readLabel, ⟨entries, readEntries, readActions⟩, (none_iff actions).mp none⟩
  · rintro ⟨readLabel, ⟨entries, readEntries, readActions⟩, distinct⟩
    refine ⟨workflow.label, readLabel, entries, readEntries, workflow.actions, readActions, ?_⟩
    rw [(none_iff workflow.actions).mpr distinct]
    rfl

theorem readActions_map {view : Action → Json} {actions : List Action}
    (each : ∀ action ∈ actions, Action.ofJson (view action) = .ok action) :
    readActions (actions.map view) = .ok actions := by
  induction actions with
  | nil => rfl
  | cons action rest ih =>
    rw [List.forall_mem_cons] at each
    rw [List.map_cons, readActions, each.1, ih each.2]
    rfl

theorem named_of_readActions {entries : List Json} {actions : List Action}
    (read : readActions entries = .ok actions) : ∀ action ∈ actions, action.id ≠ "" := by
  induction entries generalizing actions with
  | nil => cases read; simp
  | cons entry rest ih =>
    simp only [readActions, bind_eq_ok_iff] at read
    obtain ⟨action, readAction, others, readOthers, same⟩ := read
    cases same
    rw [List.forall_mem_cons]
    refine ⟨?_, ih readOthers⟩
    cases entry with
    | obj members => exact (Action.readId_eq_ok_iff.mp (Action.ofJson_eq_ok_iff.mp readAction).1).2
    | _ => cases readAction

theorem WellFormed.named_of_mem {workflow : Workflow} (wellFormed : workflow.WellFormed) {action : Action}
    (member : action ∈ workflow.actions) : action.id ≠ "" :=
  wellFormed.named action.id (List.mem_map_of_mem member)

theorem ofJson_toJson {workflow : Workflow} (wellFormed : workflow.WellFormed) :
    ofJson workflow.toJson = .ok workflow := by
  rw [toJson, ofJson_eq_ok_iff]
  exact ⟨rfl, ⟨_, rfl, readActions_map fun _ member => Action.ofJson_toJson (wellFormed.named_of_mem member)⟩,
    wellFormed.distinct⟩

theorem wellFormed_of_ofJson {value : Json} {workflow : Workflow} (read : ofJson value = .ok workflow) :
    workflow.WellFormed := by
  cases value with
  | obj members =>
    obtain ⟨_, ⟨entries, _, readActions⟩, distinct⟩ := ofJson_eq_ok_iff.mp read
    refine ⟨distinct, fun id member => ?_⟩
    obtain ⟨action, present, rfl⟩ := List.mem_map.mp member
    exact named_of_readActions readActions action present
  | _ => cases read

theorem plain_toJson (workflow : Workflow) : workflow.toJson.Plain := by
  have actions : Json.PlainItems (workflow.actions.map Action.toJson) := by
    rw [Json.plainItems_iff, List.forall_mem_map]
    exact fun action _ => action.plain_toJson
  exact ⟨(by decide : (["buttonLabel", "actions"] : List Text).Nodup), trivial, actions, trivial⟩

/-! ## Texts -/

theorem ofRecordText_recordText {workflow : Workflow} (wellFormed : workflow.WellFormed) :
    ofRecordText workflow.recordText = .ok (.ok workflow) := by
  rw [ofRecordText, recordText, Json.parse_render workflow.plain_toJson]
  simp only [ofJson_toJson wellFormed]

theorem wellFormed_of_ofRecordText {text : Text} {workflow : Workflow}
    (read : ofRecordText text = .ok (.ok workflow)) : workflow.WellFormed := by
  unfold ofRecordText at read
  split at read
  · cases read
  · cases read
  · split at read
    · next value _ _ readValue => cases read; exact wellFormed_of_ofJson readValue
    · cases read

end Workflow

end Pushbutton
