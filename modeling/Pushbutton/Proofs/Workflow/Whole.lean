import Pushbutton.Proofs.Json.Whole
import Pushbutton.Proofs.Workflow.Edit
import Pushbutton.Proofs.Workflow.FreshId
import Pushbutton.Proofs.Workflow.Grammar
import Pushbutton.Workflow.Saved

/-! A property of all texts of a workflow. Edits that are given no other texts keep it, and so does the way to a record
and back. What it is needed for is that no text has halves, for then the record can be written to a file. -/

set_option autoImplicit false

namespace Pushbutton

open Json

variable (property : Text → Prop)

def Params.AllTexts (params : Params) : Prop := ∀ field, ∀ text ∈ params.get field, property text

structure Action.AllTexts (action : Action) : Prop where
  id : property action.id
  params : action.params.AllTexts property

structure Workflow.AllTexts (workflow : Workflow) : Prop where
  label : property workflow.label
  actions : ∀ action ∈ workflow.actions, action.AllTexts property

theorem Action.allTexts_iff {action : Action} :
    action.AllTexts property ↔ property action.id ∧ action.params.AllTexts property :=
  ⟨fun all => ⟨all.id, all.params⟩, fun ⟨id, params⟩ => ⟨id, params⟩⟩

theorem Workflow.allTexts_iff {workflow : Workflow} :
    workflow.AllTexts property ↔ property workflow.label ∧ ∀ action ∈ workflow.actions, action.AllTexts property :=
  ⟨fun all => ⟨all.label, all.actions⟩, fun ⟨label, actions⟩ => ⟨label, actions⟩⟩

theorem Params.allTexts_empty : Params.AllTexts property {} := by
  intro field text given
  cases field <;> cases given

variable {property}

/-! ## Edits -/

namespace Workflow.AllTexts

variable {workflow : Workflow}

theorem relabel (all : workflow.AllTexts property) {label : Text} (given : property label) :
    (workflow.relabel label).AllTexts property := ⟨given, all.actions⟩

theorem push (all : workflow.AllTexts property) {id : Text} (given : property id) (kind : Kind) :
    (workflow.push id kind).AllTexts property := by
  refine ⟨all.label, fun action member => ?_⟩
  rcases List.mem_append.mp member with before | last
  · exact all.actions action before
  · obtain rfl := List.mem_singleton.mp last
    exact ⟨given, Params.allTexts_empty property⟩

theorem update (all : workflow.AllTexts property) (id : Text) (kind : Option Kind) {params : Option Params}
    (given : ∀ some ∈ params, some.AllTexts property) : (workflow.update id kind params).AllTexts property := by
  refine ⟨all.label, List.forall_mem_map.mpr fun action member => ?_⟩
  have before := all.actions action member
  split
  · cases params with
    | none => exact ⟨before.id, before.params⟩
    | some params => exact ⟨before.id, given params rfl⟩
  · exact before

theorem remove (all : workflow.AllTexts property) (id : Text) : (workflow.remove id).AllTexts property :=
  ⟨all.label, fun action member => all.actions action (List.mem_of_mem_filter member)⟩

theorem reorder (all : workflow.AllTexts property) {source : Int} {target : Option Int} {edited : Workflow}
    (moved : workflow.reorder source target = .ok edited) : edited.AllTexts property := by
  refine ⟨?_, fun action member => all.actions action ((perm_reorder moved).mem_iff.mp member)⟩
  cases target with
  | none =>
    cases moved
    exact all.label
  | some target =>
    rw [Workflow.reorder] at moved
    cases done : moveItem workflow.actions source target with
    | error fault => rw [done] at moved; cases moved
    | ok actions => rw [done] at moved; cases moved; exact all.label

end Workflow.AllTexts

/-! ## Records -/

theorem Json.AllMembers.get? {members : Table Text Json} (all : AllMembers property members) {name : Text}
    {value : Json} (held : members.get? name = some value) : value.AllTexts property :=
  ((allMembers_iff property).mp all _ (Table.mem_of_get? held)).2

namespace Grammar

theorem Given.holds {members : Table Text Json} {name : Text} {given : Option Text}
    (reads : Given (members.get? name) given) (all : AllMembers property members) : ∀ text ∈ given, property text := by
  rintro text rfl
  generalize held : members.get? name = value at reads
  cases reads
  exact all.get? held

theorem Config.allTexts {members : Table Text Json} {name : Text} {params : Params}
    (reads : Config (members.get? name) params) (all : AllMembers property members) : params.AllTexts property := by
  generalize held : members.get? name = value at reads
  cases reads with
  | absent | null => exact Params.allTexts_empty property
  | given fields => exact fun field text given => (fields field).holds (all.get? held) text given

theorem Entry.allTexts {value : Json} {action : Action} (reads : Entry value action) (all : value.AllTexts property) :
    action.AllTexts property := by
  obtain ⟨id, _, config⟩ := reads
  exact ⟨all.get? id.1, config.allTexts all⟩

theorem Record.allTexts (fixed : ∀ string : String, property string) {value : Json} {workflow : Workflow}
    (reads : Record value workflow) (all : value.AllTexts property) : workflow.AllTexts property := by
  cases reads with
  | @given members label entries actions labelled listed read distinct =>
    have inner : ∀ entry ∈ entries, entry.AllTexts property := by
      generalize held : members.get? "actions" = value at listed
      cases listed with
      | absent => nofun
      | given entries => exact (allItems_iff property).mp (all.get? held)
    refine ⟨?_, fun action member => ?_⟩
    · cases label with
      | none => exact fixed ""
      | some label => exact labelled.holds all label rfl
    · obtain ⟨place, inside, rfl⟩ := List.mem_iff_getElem.mp member
      have before : place < entries.length := read.length_eq ▸ inside
      exact (read.get before inside).allTexts (inner _ (List.getElem_mem before))

end Grammar

variable (fixed : ∀ string : String, property string)

include fixed

theorem Workflow.allTexts_empty : Workflow.AllTexts property {} := ⟨fixed "", nofun⟩

theorem Params.allMembers_toMembers {params : Params} :
    AllMembers property params.toMembers ↔ params.AllTexts property := by
  rw [allMembers_iff, toMembers, List.forall_mem_map, Params.AllTexts]
  simp only [present, List.mem_filterMap, Option.map_eq_some_iff, Json.AllTexts, fixed, true_and]
  constructor
  · intro all field text given
    exact all (field, text) ⟨field, field.mem_all, text, given, rfl⟩
  · rintro all _ ⟨field, -, text, given, rfl⟩
    exact all field text given

theorem Action.allTexts_toJson {action : Action} : action.toJson.AllTexts property ↔ action.AllTexts property := by
  rw [allTexts_iff, ← Params.allMembers_toMembers fixed, toJson]
  cases config : action.params.toMembers <;>
    simp [Json.AllTexts, AllMembers, AllMember, fixed]

theorem Workflow.allTexts_toJson {workflow : Workflow} :
    workflow.toJson.AllTexts property ↔ workflow.AllTexts property := by
  rw [allTexts_iff, toJson]
  simp [Json.AllTexts, AllMembers, AllMember, allItems_iff, Action.allTexts_toJson fixed, fixed]

omit fixed in
theorem Workflow.whole_recordText {workflow : Workflow} :
    workflow.recordText.Whole ↔ workflow.AllTexts Text.Whole := by
  rw [recordText, whole_render, allTexts_toJson Text.whole_ofString]

end Pushbutton
