import Mathlib.Data.List.Dedup
import Pushbutton.Proofs.Workflow.History

/-! Appending an action draws ids until one is not in use. Ids that are all different cannot all be in use, so the
draws come to an end, and their number is bounded by how many ids there are to hit. -/

set_option autoImplicit false

namespace Pushbutton

section

variable {σ : Type} {draw : σ → Text × σ} {taken other : List Text}

@[simp] theorem length_drawn (draws : Nat) (source : σ) : (drawn draw draws source).length = draws := by
  induction draws generalizing source with
  | zero => rfl
  | succ draws ih => rw [drawn, List.length_cons, ih]

/-- What is taken counts, and not how often. -/
theorem firstFresh_congr (same : ∀ id, id ∈ taken ↔ id ∈ other) (draws : Nat) (source : σ) :
    firstFresh draw taken draws source = firstFresh draw other draws source := by
  induction draws generalizing source with
  | zero => rfl
  | succ draws ih => rw [firstFresh_succ, firstFresh_succ, ih, if_congr (same _) rfl rfl]

/-- One draw more than there are ids taken is enough, if no id is drawn twice. -/
theorem exists_firstFresh_of_nodup {source : σ} (never : ∀ draws, (drawn draw draws source).Nodup) :
    ∃ id after, firstFresh draw taken (taken.dedup.length + 1) source = some (id, after) := by
  rw [firstFresh_congr fun _ => List.mem_dedup.symm]
  refine exists_firstFresh ⟨_, List.Sublist.refl _, never _, ?_⟩
  rw [length_drawn]
  exact Nat.lt_succ_self _

end

namespace Workflow

theorem append?_eq_some_iff {σ : Type} {draw : σ → Text × σ} {source after : σ} {draws : Nat} {kind : Kind}
    {workflow edited : Workflow} :
    workflow.append? draw draws kind source = some (edited, after) ↔
      ∃ before < draws, ∃ id, drawn draw before source ⊆ workflow.ids ∧ id ∉ workflow.ids ∧
        drawn draw (before + 1) source = drawn draw before source ++ [id] ∧
        after = advanced draw (before + 1) source ∧
        edited = ⟨workflow.label, workflow.actions ++ [⟨id, kind, {}⟩]⟩ := by
  simp only [append?, Option.map_eq_some_iff, Prod.exists, firstFresh_eq_some_iff, Prod.mk.injEq]
  constructor
  · rintro ⟨id, left, ⟨before, few, passed, absent, last, drew⟩, rfl, rfl⟩
    exact ⟨before, few, id, passed, absent, last, drew, rfl⟩
  · rintro ⟨before, few, id, passed, absent, last, drew, rfl⟩
    exact ⟨id, after, ⟨before, few, passed, absent, last, drew⟩, rfl, rfl⟩

/-- An action is appended with the first id drawn that is not in use: all drawn before it are, and none is drawn
after it. The other actions and the label stay. From a source that never repeats itself this takes at most one draw
more than there are different ids, and from the ids that are counted it always comes to an end. -/
theorem append_takes_first_fresh (workflow : Workflow) (kind : Kind) {σ : Type} (draw : σ → Text × σ) (source : σ) :
    ((∀ draws, (drawn draw draws source).Nodup) →
      ∃ edited after, workflow.append? draw (workflow.ids.dedup.length + 1) kind source = some (edited, after)) ∧
    (∀ draws edited after, workflow.append? draw draws kind source = some (edited, after) ↔
      ∃ before < draws, ∃ id, drawn draw before source ⊆ workflow.ids ∧ id ∉ workflow.ids ∧
        drawn draw (before + 1) source = drawn draw before source ++ [id] ∧
        after = advanced draw (before + 1) source ∧
        edited = ⟨workflow.label, workflow.actions ++ [⟨id, kind, {}⟩]⟩) ∧
    ∀ ids : IdSource, workflow.append? IdSource.draw (ids.drawsFor workflow.actions.length) kind ids =
      some (workflow.append kind ids) := by
  refine ⟨fun never => ?_, fun draws edited after => append?_eq_some_iff, workflow.append?_drawsFor kind⟩
  obtain ⟨id, after, found⟩ := exists_firstFresh_of_nodup never
  exact ⟨workflow.push id kind, after, congrArg (Option.map _) found⟩

/-- The first two ids that are counted are in use, and one of them twice. -/
def crowded : Workflow := ⟨"Go", [1, 2, 1].map fun n => ⟨identifier n, .alert, {}⟩⟩

theorem append_takes_first_fresh_crowded :
    (∀ draws, (drawn IdSource.draw draws {}).Nodup) ∧ crowded.ids.dedup.length = 2 ∧
    (∃ edited after, crowded.append? IdSource.draw 3 .showText {} = some (edited, after)) ∧
    crowded.append? IdSource.draw 3 .showText {} =
      some (⟨"Go", crowded.actions ++ [⟨identifier 3, .showText, {}⟩]⟩, ⟨[], 4⟩) := by
  have never : ∀ draws, (drawn IdSource.draw draws {}).Nodup := IdSource.nodup_drawn 1
  have taken : crowded.ids = [1, 2, 1].map fun n => (identifier n : Text) := rfl
  have two : crowded.ids.dedup.length = 2 := by
    rw [taken, List.dedup_map_of_injective text_identifier_injective, List.length_map]
    decide
  obtain ⟨ends, found, -⟩ := append_takes_first_fresh crowded .showText IdSource.draw {}
  rw [two] at ends
  refine ⟨never, two, ends never, (found 3 _ _).mpr ⟨2, by decide, identifier 3, ?_, ?_, rfl, rfl, rfl⟩⟩
  · rw [taken]
    exact List.map_subset (fun n => (identifier n : Text)) (show [1, 2] ⊆ [1, 2, 1] by decide)
  · rw [taken, List.mem_map_of_injective text_identifier_injective]
    decide

end Workflow

end Pushbutton
