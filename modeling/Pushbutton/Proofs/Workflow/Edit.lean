import Mathlib.Data.List.Nodup
import Mathlib.Data.List.Perm.Basic
import Pushbutton.Workflow.Edit

/-! Edits of a workflow: where a move takes from and where it puts at, and that every edit keeps a workflow well
formed, with ids that are distinct and never empty. -/

set_option autoImplicit false

namespace Pushbutton

/-! ## Positions -/

theorem position?_eq_some_iff {length place : Nat} {index : Int} :
    position? length index = some place ↔
      place < length ∧ (place : Int) = if index < 0 then index + length else index := by
  unfold position?
  generalize (if index < 0 then index + (length : Int) else index) = fromFront
  dsimp only
  split
  · rw [Option.some.injEq]
    omega
  · simp only [reduceCtorEq, false_iff, not_and]
    omega

theorem exists_position?_iff {length : Nat} {index : Int} :
    (∃ place, position? length index = some place) ↔ -(length : Int) ≤ index ∧ index < length := by
  simp only [position?_eq_some_iff]
  constructor
  · rintro ⟨place, inside, counted⟩
    split at counted <;> omega
  · rintro ⟨low, high⟩
    by_cases back : index < 0
    · exact ⟨(index + length).toNat, by omega, by rw [if_pos back]; omega⟩
    · exact ⟨index.toNat, by omega, by rw [if_neg back]; omega⟩

theorem position?_natCast {length place : Nat} (inside : place < length) :
    position? length place = some place :=
  position?_eq_some_iff.mpr ⟨inside, by rw [if_neg (by omega)]⟩

theorem insertionPoint_le (length : Nat) (index : Int) : insertionPoint length index ≤ length :=
  Nat.min_le_right _ _

theorem insertionPoint_natCast {length place : Nat} (inside : place ≤ length) :
    insertionPoint length place = place := by
  simp only [insertionPoint, if_neg (Int.not_lt.mpr (Int.natCast_nonneg place)), Int.toNat_natCast]
  exact Nat.min_eq_left inside

theorem natCast_insertionPoint (length : Nat) (index : Int) :
    (insertionPoint length index : Int) =
      if index < 0 then max 0 (index + length) else min index length := by
  unfold insertionPoint
  dsimp only
  split <;> omega

theorem isWord_of_lt {length place : Nat} (counted : isWord length = true) (inside : place < length) :
    isWord place = true := by
  simp only [isWord, Bool.and_eq_true, decide_eq_true_eq] at counted ⊢
  omega

/-! ## Moving an item -/

section

variable {α : Type} {items : List α} {source target : Int}

theorem moveItem_of_beyond (beyond : isWord source = false) :
    moveItem items source target = .error .beyondWord := by
  simp [moveItem, beyond]

theorem moveItem_of_outside (word : isWord source = true)
    (outside : position? items.length source = none) :
    moveItem items source target = .error (if items.isEmpty then .empty else .outOfRange) := by
  simp only [moveItem, word, outside]
  by_cases empty : items.isEmpty <;> simp [empty]

theorem moveItem_of_position {place : Nat} (word : isWord source = true)
    (found : position? items.length source = some place) (inside : place < items.length) :
    moveItem items source target =
      if isWord target then
        .ok ((items.eraseIdx place).insertIdx (insertionPoint (items.length - 1) target) items[place])
      else .error .beyondWord := by
  have filled : items.isEmpty = false := by
    cases items with
    | nil => cases inside
    | cons => rfl
  simp only [moveItem, word, filled, found, List.getElem?_eq_getElem inside,
    List.length_eraseIdx_of_lt inside]
  cases isWord target <;> rfl

end

theorem moveItem_perm {α : Type} {items moved : List α} {source target : Int}
    (done : moveItem items source target = .ok moved) : moved.Perm items := by
  -- all cases but the last are refusals
  unfold moveItem at done
  split at done
  · cases done
  split at done
  · cases done
  split at done
  · cases done
  next index _ =>
    split at done
    · cases done
    next item found =>
      split at done
      · cases done
      · cases done
        obtain ⟨inside, rfl⟩ := List.getElem?_eq_some_iff.mp found
        have inserted : insertionPoint (items.eraseIdx index).length target ≤ (items.eraseIdx index).length :=
          Nat.min_le_right _ _
        exact (List.perm_insertIdx _ _ inserted).trans (List.getElem_cons_eraseIdx_perm inside)

theorem moveItem_within {α : Type} {items : List α} {source target : Nat} (inside : source < items.length)
    (there : target < items.length) (counted : isWord items.length = true) :
    moveItem items source target = .ok ((items.eraseIdx source).insertIdx target items[source]) := by
  -- the list is one shorter by now, and its end is still a place to insert at
  have point : insertionPoint (items.length - 1) target = target := insertionPoint_natCast (by omega)
  rw [moveItem_of_position (isWord_of_lt counted inside) (position?_natCast inside) inside,
    isWord_of_lt counted there, if_pos rfl, point]

/-! ## Edits of a workflow -/

namespace Workflow

theorem wellFormed_empty : WellFormed {} := ⟨List.nodup_nil, by simp [ids]⟩

theorem ids_push (workflow : Workflow) (id : Text) (kind : Kind) :
    (workflow.push id kind).ids = workflow.ids ++ [id] := by
  simp [ids, push]

theorem ids_update (workflow : Workflow) (id : Text) (kind : Option Kind) (params : Option Params) :
    (workflow.update id kind params).ids = workflow.ids := by
  simp only [ids, update, List.map_map]
  apply List.map_congr_left
  intro action _
  simp only [Function.comp_apply]
  split <;> rfl

theorem perm_reorder {workflow edited : Workflow} {source : Int} {target : Option Int}
    (moved : workflow.reorder source target = .ok edited) : edited.actions.Perm workflow.actions := by
  cases target with
  | none => cases moved; exact List.Perm.refl _
  | some target =>
    simp only [Workflow.reorder] at moved
    cases done : moveItem workflow.actions source target with
    | error fault => rw [done] at moved; cases moved
    | ok actions =>
      rw [done] at moved
      cases moved
      exact moveItem_perm done

theorem ids_reorder {workflow edited : Workflow} {source : Int} {target : Option Int}
    (moved : workflow.reorder source target = .ok edited) : edited.ids.Perm workflow.ids :=
  (perm_reorder moved).map _

theorem isSome_find?_iff {workflow : Workflow} {id : Text} :
    (workflow.find? id).isSome ↔ id ∈ workflow.ids := by
  simp [find?, ids]

theorem find?_eq_some_iff {workflow : Workflow} (distinct : workflow.ids.Nodup) {id : Text} {action : Action} :
    workflow.find? id = some action ↔ action ∈ workflow.actions ∧ action.id = id := by
  constructor
  · intro found
    exact ⟨List.mem_of_find?_eq_some found, by simpa using List.find?_some found⟩
  · rintro ⟨member, rfl⟩
    obtain ⟨other, found⟩ := Option.isSome_iff_exists.mp (isSome_find?_iff.mpr (List.mem_map_of_mem member))
    have named : other.id = action.id := by simpa using List.find?_some found
    rw [found, List.inj_on_of_nodup_map distinct (List.mem_of_find?_eq_some found) member named]

theorem isSome_find?_push (workflow : Workflow) (id : Text) (kind : Kind) :
    ((workflow.push id kind).find? id).isSome := by
  rw [isSome_find?_iff, ids_push]
  exact List.mem_append_right _ List.mem_cons_self

theorem isSome_find?_update_iff {workflow : Workflow} {id other : Text} {kind : Option Kind}
    {params : Option Params} :
    ((workflow.update id kind params).find? other).isSome ↔ (workflow.find? other).isSome := by
  rw [isSome_find?_iff, ids_update, isSome_find?_iff]

namespace WellFormed

variable {workflow : Workflow}

theorem of_subperm (wellFormed : workflow.WellFormed) {edited : Workflow}
    (among : edited.ids.Subperm workflow.ids) : edited.WellFormed := by
  obtain ⟨ids, same, part⟩ := among
  exact ⟨same.nodup_iff.mp (wellFormed.distinct.sublist part),
    fun id member => wellFormed.named id (part.subset (same.symm.subset member))⟩

theorem relabel (wellFormed : workflow.WellFormed) (label : Text) : (workflow.relabel label).WellFormed :=
  wellFormed.of_subperm (List.Subperm.refl _)

theorem push (wellFormed : workflow.WellFormed) {id : Text} (kind : Kind) (fresh : id ∉ workflow.ids)
    (named : id ≠ "") : (workflow.push id kind).WellFormed := by
  constructor
  · rw [ids_push]
    exact wellFormed.distinct.append (List.nodup_singleton id) (List.disjoint_singleton.mpr fresh)
  · intro other member
    rw [ids_push, List.mem_append, List.mem_singleton] at member
    rcases member with before | rfl
    · exact wellFormed.named other before
    · exact named

theorem update (wellFormed : workflow.WellFormed) (id : Text) (kind : Option Kind)
    (params : Option Params) :
    (workflow.update id kind params).WellFormed :=
  wellFormed.of_subperm (workflow.ids_update id kind params ▸ List.Subperm.refl _)

theorem remove (wellFormed : workflow.WellFormed) (id : Text) : (workflow.remove id).WellFormed :=
  wellFormed.of_subperm (List.filter_sublist.map _).subperm

theorem reorder (wellFormed : workflow.WellFormed) {source : Int} {target : Option Int} {edited : Workflow}
    (moved : workflow.reorder source target = .ok edited) : edited.WellFormed :=
  wellFormed.of_subperm (ids_reorder moved).subperm

end WellFormed

end Workflow

end Pushbutton
