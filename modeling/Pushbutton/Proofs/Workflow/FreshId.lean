import Mathlib.Data.List.Nodup
import Mathlib.Data.List.Perm.Subperm
import Pushbutton.Proofs.Text.Numeral
import Pushbutton.Workflow.Edit

/-! New ids: whatever ids are in use and whatever ids are still to come, one is drawn that is not in use. -/

set_option autoImplicit false

namespace Pushbutton

/-! ## Any source -/

section

variable {σ : Type} {draw : σ → Text × σ} {taken : List Text}

theorem firstFresh_succ (draws : Nat) (source : σ) :
    firstFresh draw taken (draws + 1) source =
      if (draw source).1 ∈ taken then firstFresh draw taken draws (draw source).2
      else some (draw source) := rfl

def drawn (draw : σ → Text × σ) : Nat → σ → List Text
  | 0, _ => []
  | draws + 1, source => (draw source).1 :: drawn draw draws (draw source).2

theorem subset_of_firstFresh_eq_none {draws : Nat} {source : σ}
    (none : firstFresh draw taken draws source = none) :
    drawn draw draws source ⊆ taken := by
  induction draws generalizing source with
  | zero => exact List.nil_subset _
  | succ draws ih =>
    rw [firstFresh_succ] at none
    split at none
    · next present => exact List.cons_subset.mpr ⟨present, ih none⟩
    · cases none

theorem exists_firstFresh {draws : Nat} {source : σ}
    (distinct : ∃ ids : List Text, ids.Sublist (drawn draw draws source) ∧ ids.Nodup ∧
      taken.length < ids.length) :
    ∃ id after, firstFresh draw taken draws source = some (id, after) := by
  cases found : firstFresh draw taken draws source with
  | some fresh => exact ⟨fresh.1, fresh.2, rfl⟩
  | none =>
    obtain ⟨ids, among, nodup, more⟩ := distinct
    -- more distinct ids than are taken cannot all be taken
    have subset : ids ⊆ taken := List.Subset.trans among.subset (subset_of_firstFresh_eq_none found)
    have fewer := (nodup.subperm subset).length_le
    omega

/-- What is found is not taken, and it has what every id of the source has. -/
theorem firstFresh_spec {holds : σ → Prop} (property : Text → Prop)
    (keeps : ∀ source, holds source → property (draw source).1 ∧ holds (draw source).2) {draws : Nat}
    {source after : σ} {id : Text} (start : holds source)
    (found : firstFresh draw taken draws source = some (id, after)) :
    id ∉ taken ∧ property id ∧ holds after := by
  induction draws generalizing source with
  | zero => cases found
  | succ draws ih =>
    have drew := keeps source start
    rw [firstFresh_succ] at found
    split at found
    · exact ih drew.2 found
    · next absent =>
      rw [Option.some.inj found] at absent drew
      exact ⟨absent, drew⟩

end

/-! ## Counting -/

theorem identifier_injective : Function.Injective identifier := by
  intro n m same
  unfold identifier at same
  have digits := String.ofList_injective (String.append_right_inj _ |>.mp same)
  exact Text.hexPadded_injective digits

theorem text_identifier_injective : Function.Injective fun n => (identifier n : Text) :=
  fun _ _ same => identifier_injective (Text.ofString_inj.mp same)

theorem identifier_ne_empty (n : Nat) : identifier n ≠ "" := by
  intro empty
  have length := congrArg String.length empty
  simp [identifier] at length

theorem text_identifier_ne_empty (n : Nat) : (identifier n : Text) ≠ "" :=
  mt Text.ofString_inj.mp (identifier_ne_empty n)

namespace IdSource

/-- No id is empty: none of those to come, for those that are counted never are. -/
def Named (source : IdSource) : Prop := ∀ id ∈ source.pending, id ≠ ""

theorem draw_spec {property : Text → Prop} (counted : ∀ n, property (identifier n)) {source : IdSource}
    (given : ∀ id ∈ source.pending, property id) :
    property source.draw.1 ∧ ∀ id ∈ source.draw.2.pending, property id := by
  unfold IdSource.draw
  split
  · next id rest pending =>
    rw [pending, List.forall_mem_cons] at given
    exact given
  · exact ⟨counted _, given⟩

theorem Named.draw {source : IdSource} (named : source.Named) : source.draw.1 ≠ "" ∧ source.draw.2.Named :=
  draw_spec text_identifier_ne_empty named

theorem Named.not_mem_drawn {source : IdSource} (named : source.Named) (draws : Nat) :
    ("" : Text) ∉ drawn IdSource.draw draws source := by
  induction draws generalizing source with
  | zero => exact List.not_mem_nil
  | succ draws ih =>
    obtain ⟨first, later⟩ := named.draw
    exact List.not_mem_cons_of_ne_of_not_mem (Ne.symm first) (ih later)

theorem drawn_eq (pending : List Text) (next draws : Nat) :
    drawn IdSource.draw (pending.length + draws) ⟨pending, next⟩ =
      pending ++ (List.range' next draws).map fun n => (identifier n : Text) := by
  induction pending with
  | nil =>
    rw [List.length_nil, Nat.zero_add, List.nil_append]
    -- nothing is pending any more, and every further id is counted
    induction draws generalizing next with
    | zero => rfl
    | succ draws ih => rw [drawn, List.range'_succ, List.map_cons, ← ih]; rfl
  | cons id rest ih =>
    rw [List.length_cons, Nat.add_right_comm, drawn, List.cons_append, ← ih]
    rfl

/-- Counting never comes to an id again. -/
theorem nodup_drawn (next draws : Nat) : (drawn IdSource.draw draws ⟨[], next⟩).Nodup := by
  have counted := drawn_eq [] next draws
  rw [List.length_nil, Nat.zero_add, List.nil_append] at counted
  exact counted ▸ List.Nodup.map text_identifier_injective List.nodup_range'

end IdSource

namespace Workflow

/-- Among so many draws one always serves: the counted ids alone are more than those in use. -/
theorem exists_freshId (workflow : Workflow) (source : IdSource) :
    ∃ id after, firstFresh IdSource.draw workflow.ids (source.drawsFor workflow.actions.length) source =
      some (id, after) := by
  apply exists_firstFresh
  refine ⟨(List.range' source.next (workflow.actions.length + 1)).map fun n => (identifier n : Text), ?_, ?_, ?_⟩
  · rw [IdSource.drawsFor, Nat.add_assoc, IdSource.drawn_eq]
    exact List.sublist_append_right _ _
  · exact List.Nodup.map text_identifier_injective List.nodup_range'
  · simp [ids]

theorem freshId_of_pending {property : Text → Prop} (counted : ∀ n, property (identifier n)) (workflow : Workflow)
    {source : IdSource} (given : ∀ id ∈ source.pending, property id) :
    (workflow.freshId source).1 ∉ workflow.ids ∧ property (workflow.freshId source).1 ∧
      ∀ id ∈ (workflow.freshId source).2.pending, property id := by
  obtain ⟨id, after, found⟩ := workflow.exists_freshId source
  rw [freshId, found]
  exact firstFresh_spec property (fun _ => IdSource.draw_spec counted) given found

theorem freshId_spec (workflow : Workflow) {source : IdSource} (named : source.Named) :
    (workflow.freshId source).1 ∉ workflow.ids ∧ (workflow.freshId source).1 ≠ "" ∧
      (workflow.freshId source).2.Named :=
  freshId_of_pending text_identifier_ne_empty workflow named

theorem append?_drawsFor (workflow : Workflow) (kind : Kind) (source : IdSource) :
    workflow.append? IdSource.draw (source.drawsFor workflow.actions.length) kind source =
      some (workflow.append kind source) := by
  obtain ⟨id, after, found⟩ := workflow.exists_freshId source
  rw [append?, append, freshId, found]
  rfl

end Workflow

end Pushbutton
