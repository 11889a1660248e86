import Mathlib.Data.List.InsertIdx
import Pushbutton.Proofs.Workflow.Edit
import Pushbutton.Proofs.Workflow.FreshId

/-! Edits of the action with an id. What such an edit does is told by what it makes of that one action: it reaches no
other, and it does not matter where the action stands. -/

set_option autoImplicit false

namespace Pushbutton

/-! ## One action -/

namespace Action

def KeepsId (edit : Action → Option Action) : Prop := ∀ action, ∀ edited ∈ edit action, edited.id = action.id

theorem keepsId_none : KeepsId fun _ => none := by
  intro action edited made
  cases made

theorem keepsId_amend (kind : Option Kind) (params : Option Params) :
    KeepsId fun action => some (action.amend kind params) := by
  intro action edited made
  cases made
  rfl

/-- What is given later stands, and what is not given later stays. -/
theorem amend_amend (kind other : Option Kind) (params others : Option Params) (action : Action) :
    (action.amend kind params).amend other others = action.amend (other.or kind) (others.or params) := by
  cases other <;> cases others <;> rfl

end Action

/-- A move sees only how many items there are, so it does not matter what becomes of each of them before it. -/
theorem moveItem_map {α β : Type} (change : α → β) (items : List α) (source target : Int) :
    moveItem (items.map change) source target = (moveItem items source target).map (List.map change) := by
  unfold moveItem
  simp only [List.isEmpty_map, List.length_map, List.getElem?_map]
  split
  · rfl
  split
  · rfl
  split
  · rfl
  next index _ =>
    cases items[index]? with
    | none => rfl
    | some item =>
      simp only [Option.map_some]
      split
      · rfl
      · rw [Except.map, List.eraseIdx_map, List.length_map, List.map_insertIdx]

namespace Workflow

/-- Every action with the id is replaced by what the edit makes of it, or is taken out. -/
def alter (id : Text) (edit : Action → Option Action) (workflow : Workflow) : Workflow :=
  { workflow with
    actions := workflow.actions.filterMap fun action => if action.id = id then edit action else some action }

theorem remove_eq_alter (workflow : Workflow) (id : Text) :
    workflow.remove id = workflow.alter id fun _ => none := by
  rw [remove, alter, ← List.filterMap_eq_filter]
  congr 2
  funext action
  by_cases same : action.id = id <;> simp [Option.guard, same]

theorem update_eq_alter (workflow : Workflow) (id : Text) (kind : Option Kind) (params : Option Params) :
    workflow.update id kind params = workflow.alter id fun action => some (action.amend kind params) := by
  rw [update, alter, ← List.filterMap_eq_map]
  congr 2
  funext action
  by_cases same : action.id = id <;> simp [same]

section

open Pushbutton.Action

variable {workflow : Workflow} {id other : Text} {edit change : Action → Option Action}

theorem alter_alter (keeps : KeepsId edit) :
    (workflow.alter id edit).alter id change = workflow.alter id fun action => (edit action).bind change := by
  simp only [alter, List.filterMap_filterMap]
  congr 2
  funext action
  by_cases same : action.id = id
  · cases made : edit action with
    | none => simp [same]
    | some edited => simp [same, (keeps action edited made).trans same]
  · simp [same]

theorem alter_comm (apart : id ≠ other) (keeps : KeepsId edit) (keepsToo : KeepsId change) :
    (workflow.alter id edit).alter other change = (workflow.alter other change).alter id edit := by
  simp only [alter, List.filterMap_filterMap]
  congr 2
  funext action
  by_cases here : action.id = id
  · have elsewhere : action.id ≠ other := here ▸ apart
    cases made : edit action with
    | none => simp [here, apart, made]
    | some edited =>
      have still : edited.id ≠ other := keeps action edited made ▸ elsewhere
      simp [here, apart, made, still]
  · by_cases there : action.id = other
    · cases made : change action with
      | none => simp [there, apart.symm, made]
      | some edited =>
        have still : edited.id ≠ id := keepsToo action edited made ▸ here
        simp [there, apart.symm, made, still]
    · simp [here, there]

theorem alter_of_absent (absent : id ∉ workflow.ids) : workflow.alter id edit = workflow := by
  have same : workflow.actions.filterMap (fun action => if action.id = id then edit action else some action) =
      workflow.actions.filterMap some := by
    apply List.filterMap_congr
    intro action member
    rw [if_neg]
    rintro rfl
    exact absent (List.mem_map_of_mem member)
  rw [alter, same, List.filterMap_some]

/-! ## What is found -/

theorem find?_eq_none_iff : workflow.find? id = none ↔ id ∉ workflow.ids := by
  rw [← isSome_find?_iff, Bool.not_eq_true, Option.isSome_eq_false_iff, Option.isNone_iff_eq_none]

theorem find?_alter_of_ne (apart : id ≠ other) (keeps : KeepsId edit) :
    (workflow.alter id edit).find? other = workflow.find? other := by
  have reached : (fun action => (if action.id = id then edit action else some action).any (·.id == other)) =
      fun action => action.id == other := by
    funext action
    split
    · next same =>
      cases made : edit action with
      | none => simp [same, apart]
      | some edited => simp [keeps action edited made]
    · rfl
  simp only [find?, alter, List.find?_filterMap, reached]
  cases found : workflow.actions.find? (·.id == other) with
  | none => rfl
  | some action =>
    have named : action.id = other := by simpa using List.find?_some found
    rw [Option.bind_some, if_neg (named ▸ apart.symm)]

theorem find?_alter (distinct : workflow.ids.Nodup) (keeps : KeepsId edit) :
    (workflow.alter id edit).find? id = (workflow.find? id).bind edit := by
  obtain ⟨label, actions⟩ := workflow
  induction actions with
  | nil => rfl
  | cons action rest ih =>
    obtain ⟨absent, later⟩ := List.nodup_cons.mp distinct
    simp only [find?, alter] at ih ⊢
    by_cases same : action.id = id
    · cases made : edit action with
      | none =>
        -- the edit takes the action out, and none of the others has its id
        have gone : id ∉ ids ⟨label, rest⟩ := same ▸ absent
        have none : rest.find? (·.id == id) = none := find?_eq_none_iff.mpr gone
        simpa [same, made, none] using ih later
      | some edited => simp [same, made, keeps action edited made]
    · simpa [same] using ih later

/-! ## A new action, and where actions stand -/

theorem push_alter (apart : id ≠ other) (kind : Kind) :
    (workflow.alter id edit).push other kind = (workflow.push other kind).alter id edit := by
  simp [push, alter, apart.symm]

theorem remove_push (kind : Kind) (absent : id ∉ workflow.ids) : (workflow.push id kind).remove id = workflow := by
  have left : workflow.alter id (fun _ => none) = workflow := alter_of_absent absent
  rw [remove_eq_alter]
  simpa [push, alter] using left

theorem append?_of_fresh {σ : Type} {draw : σ → Text × σ} {source : σ} (draws : Nat) (kind : Kind)
    (fresh : (draw source).1 ∉ workflow.ids) :
    workflow.append? draw (draws + 1) kind source = some (workflow.push (draw source).1 kind, (draw source).2) := by
  rw [append?, firstFresh_succ, if_neg fresh]
  rfl

theorem append?_alter {σ : Type} {draw : σ → Text × σ} {source : σ} (draws : Nat) (kind : Kind)
    (keeps : KeepsId edit) (fresh : (draw source).1 ∉ workflow.ids) (apart : id ≠ (draw source).1) :
    (workflow.alter id edit).append? draw (draws + 1) kind source =
      some ((workflow.push (draw source).1 kind).alter id edit, (draw source).2) := by
  have freshToo : (draw source).1 ∉ (workflow.alter id edit).ids := by
    rwa [← find?_eq_none_iff, find?_alter_of_ne apart keeps, find?_eq_none_iff]
  rw [append?_of_fresh draws kind freshToo, push_alter apart]

theorem reorder_update (workflow : Workflow) (id : Text) (kind : Option Kind) (params : Option Params)
    (source : Int) (target : Option Int) :
    (workflow.update id kind params).reorder source target =
      (workflow.reorder source target).map (·.update id kind params) := by
  cases target with
  | none => rfl
  | some target =>
    simp only [reorder, update, moveItem_map]
    cases moveItem workflow.actions source target <;> rfl

theorem reorder_relabel (workflow : Workflow) (label : Text) (source : Int) (target : Option Int) :
    (workflow.relabel label).reorder source target = (workflow.reorder source target).map (·.relabel label) := by
  cases target with
  | none => rfl
  | some target =>
    simp only [reorder, relabel]
    cases moveItem workflow.actions source target <;> rfl

/-- An edit acts on the action that its id names. Under two ids edits go in any order, and beside a new action, a
label or a move too; under one id the later one stands where it gives something. What is found under the id is what
the edit made of it, what is found under any other is as before, and an id that no action has changes nothing. -/
theorem edits_by_id (distinct : workflow.ids.Nodup) (apart : id ≠ other) (kind kindToo : Option Kind)
    (params paramsToo : Option Params) :
    -- under two ids
    (workflow.update id kind params).update other kindToo paramsToo =
      (workflow.update other kindToo paramsToo).update id kind params ∧
    (workflow.update id kind params).remove other = (workflow.remove other).update id kind params ∧
    (workflow.remove id).remove other = (workflow.remove other).remove id ∧
    -- beside a label and beside a move
    (∀ label, (workflow.update id kind params).relabel label = (workflow.relabel label).update id kind params) ∧
    (∀ source target, (workflow.update id kind params).reorder source target =
      (workflow.reorder source target).map (·.update id kind params)) ∧
    (∀ label source target, (workflow.relabel label).reorder source target =
      (workflow.reorder source target).map (·.relabel label)) ∧
    -- beside a new action
    (∀ {σ : Type} (draw : σ → Text × σ) (source : σ) (draws : Nat) (new : Kind),
      let fresh := (draw source).1
      let after := (draw source).2
      fresh ∉ workflow.ids → ∃ added : Workflow,
        workflow.append? draw (draws + 1) new source = some (added, after) ∧
        added.remove fresh = workflow ∧
        (id ≠ fresh →
          (workflow.update id kind params).append? draw (draws + 1) new source =
            some (added.update id kind params, after) ∧
          (workflow.remove id).append? draw (draws + 1) new source = some (added.remove id, after))) ∧
    -- under one id
    (workflow.update id kind none).update id none params = workflow.update id kind params ∧
    (workflow.update id none params).update id kind none = workflow.update id kind params ∧
    (∀ first last : Params, (workflow.update id kind (some first)).update id kindToo (some last) =
      workflow.update id (kindToo.or kind) (some last)) ∧
    -- what is found
    (workflow.update id kind params).find? id = (workflow.find? id).map (fun action =>
      ⟨action.id, kind.getD action.kind, params.getD action.params⟩) ∧
    (workflow.update id kind params).find? other = workflow.find? other ∧
    (workflow.remove id).find? other = workflow.find? other ∧
    (workflow.remove id).find? id = none ∧
    (id ∉ workflow.ids → workflow.update id kind params = workflow ∧ workflow.remove id = workflow) := by
  have twice (kind kindToo : Option Kind) (params paramsToo : Option Params) :
      (workflow.update id kind params).update id kindToo paramsToo =
        workflow.update id (kindToo.or kind) (paramsToo.or params) := by
    simp only [update_eq_alter, alter_alter (keepsId_amend _ _), Option.bind_some, amend_amend]
  refine ⟨?_, ?_, ?_, fun _ => rfl, reorder_update workflow id kind params, reorder_relabel workflow, ?_, ?_, ?_, ?_,
    ?_, ?_, ?_, ?_, ?_⟩
  · simp only [update_eq_alter]
    exact alter_comm apart (keepsId_amend _ _) (keepsId_amend _ _)
  · simp only [update_eq_alter, remove_eq_alter]
    exact alter_comm apart (keepsId_amend _ _) keepsId_none
  · simp only [remove_eq_alter]
    exact alter_comm apart keepsId_none keepsId_none
  · intro σ draw source draws new fresh after absent
    refine ⟨_, append?_of_fresh draws new absent, remove_push new absent, fun apart => ⟨?_, ?_⟩⟩
    · rw [update_eq_alter, update_eq_alter, append?_alter draws new (keepsId_amend _ _) absent apart]
    · rw [remove_eq_alter, remove_eq_alter, append?_alter draws new keepsId_none absent apart]
  · rw [twice, Option.none_or, Option.or_none]
  · rw [twice, Option.none_or, Option.or_none]
  · exact fun first last => twice _ _ _ _
  · rw [update_eq_alter, find?_alter distinct (keepsId_amend _ _), Option.map_eq_bind]
    rfl
  · rw [update_eq_alter, find?_alter_of_ne apart (keepsId_amend _ _)]
  · rw [remove_eq_alter, find?_alter_of_ne apart keepsId_none]
  · rw [remove_eq_alter, find?_alter distinct keepsId_none, Option.bind_fun_none]
  · intro absent
    rw [update_eq_alter, remove_eq_alter, alter_of_absent absent, alter_of_absent absent]
    exact ⟨rfl, rfl⟩

def alertAndText : Workflow := ⟨"Go", [⟨"a", .alert, {}⟩, ⟨"b", .showText, { message := some "hi" }⟩]⟩

/-- The text becomes an image, which keeps its message; the alert is moved behind it and taken out. -/
theorem edits_by_id_mixed :
    alertAndText.ids.Nodup ∧ ("b" : Text) ≠ "a" ∧
      (alertAndText.update "b" (some .showImage) none).find? "b" =
        some ⟨"b", .showImage, { message := some "hi" }⟩ ∧
      (alertAndText.update "b" (some .showImage) none).remove "a" =
        (alertAndText.remove "a").update "b" (some .showImage) none ∧
      (alertAndText.update "b" (some .showImage) none).reorder 0 (some 1) =
        .ok ((⟨"Go", alertAndText.actions.reverse⟩ : Workflow).update "b" (some .showImage) none) ∧
      ("c" : Text) ∉ alertAndText.ids ∧ ("b" : Text) ≠ "c" ∧ ∃ added : Workflow,
        alertAndText.append? (fun _ => ("c", ())) 1 .alert () = some (added, ()) ∧
        added.remove "c" = alertAndText ∧
        (alertAndText.remove "b").append? (fun _ => ("c", ())) 1 .alert () = some (added.remove "b", ()) := by
  have distinct : alertAndText.ids.Nodup := by decide
  have apart : ("b" : Text) ≠ "a" := by decide
  have fresh : ("c" : Text) ∉ alertAndText.ids := by decide
  obtain ⟨-, swap, -, -, moved, -, grown, -, -, -, found, -⟩ :=
    edits_by_id distinct apart (some .showImage) none none none
  obtain ⟨added, adds, undone, beside⟩ := grown (fun _ => ("c", ())) () 0 .alert fresh
  exact ⟨distinct, apart, found, swap, moved 0 (some 1), fresh, by decide, added, adds, undone,
    (beside (by decide)).2⟩

end

end Workflow

end Pushbutton
