import Pushbutton.Proofs.Workflow.Edit
import Pushbutton.Proofs.Workflow.FreshId
import Pushbutton.Proofs.Workflow.Record
import Pushbutton.Proofs.Workflow.Revision

/-! Histories of edits: every version made is kept, and the next edit may start from any of them. An edit keeps ids
distinct by itself; that an id never comes back is a matter of where new ones are drawn from. -/

set_option autoImplicit false

namespace Pushbutton

/-! ## Draws one after another -/

section

variable {σ : Type} {draw : σ → Text × σ} {taken : List Text}

def advanced (draw : σ → Text × σ) : Nat → σ → σ
  | 0, source => source
  | draws + 1, source => advanced draw draws (draw source).2

theorem drawn_add (first later : Nat) (source : σ) :
    drawn draw (first + later) source = drawn draw first source ++ drawn draw later (advanced draw first source) := by
  induction first generalizing source with
  | zero => rw [Nat.zero_add]; rfl
  | succ first ih => rw [Nat.add_right_comm, drawn, ih]; rfl

theorem advanced_add (first later : Nat) (source : σ) :
    advanced draw (first + later) source = advanced draw later (advanced draw first source) := by
  induction first generalizing source with
  | zero => rw [Nat.zero_add]; rfl
  | succ first ih => rw [Nat.add_right_comm, advanced, ih]; rfl

/-- What is found is the last id drawn for it: it is not taken, and all that were drawn before it are. -/
theorem firstFresh_eq_some_iff {draws : Nat} {source after : σ} {id : Text} :
    firstFresh draw taken draws source = some (id, after) ↔
      ∃ before < draws, drawn draw before source ⊆ taken ∧ id ∉ taken ∧
        drawn draw (before + 1) source = drawn draw before source ++ [id] ∧
        after = advanced draw (before + 1) source := by
  induction draws generalizing source with
  | zero => simp [firstFresh]
  | succ draws ih =>
    rw [firstFresh_succ]
    split
    · next present =>
      rw [ih]
      constructor
      · rintro ⟨before, few, passed, absent, last, left⟩
        exact ⟨before + 1, Nat.succ_lt_succ few, List.cons_subset.mpr ⟨present, passed⟩, absent,
          congrArg ((draw source).1 :: ·) last, left⟩
      · rintro ⟨before, few, passed, absent, last, left⟩
        cases before with
        | zero => exact absurd (List.singleton_inj.mp last ▸ present) absent
        | succ before =>
          exact ⟨before, Nat.lt_of_succ_lt_succ few, (List.cons_subset.mp passed).2, absent,
            (List.cons.inj last).2, left⟩
    · next absent =>
      constructor
      · intro first
        rw [Option.some.injEq] at first
        rw [first] at absent
        refine ⟨0, Nat.succ_pos draws, List.nil_subset _, absent, ?_, ?_⟩ <;> simp [drawn, advanced, first]
      · rintro ⟨before, -, passed, -, last, left⟩
        cases before with
        | zero => exact congrArg some (Prod.ext (List.singleton_inj.mp last) left.symm)
        | succ before => exact absurd (List.cons_subset.mp passed).1 absent

end

/-! ## One edit -/

inductive Revision.Makes {σ : Type} (draw : σ → Text × σ) (source : σ) (workflow : Workflow) :
    Revision → Workflow → σ → Prop
  | append {kind : Kind} {draws : Nat} {edited : Workflow} {after : σ}
      (fresh : workflow.append? draw draws kind source = some (edited, after)) :
      Makes draw source workflow (.append kind) edited after
  | remove (id : Text) : Makes draw source workflow (.remove id) (workflow.remove id) source
  | update (id : Text) (kind : Option Kind) (params : Option Params) :
      Makes draw source workflow (.update id kind params) (workflow.update id kind params) source
  | reorder {place : Int} {target : Option Int} {edited : Workflow}
      (moved : workflow.reorder place target = .ok edited) :
      Makes draw source workflow (.reorder place target) edited source
  | relabel (label : Text) : Makes draw source workflow (.relabel label) (workflow.relabel label) source

section

variable {σ : Type} {draw : σ → Text × σ} {source after : σ} {workflow edited : Workflow}

theorem Workflow.append?_spec {draws : Nat} {kind : Kind}
    (fresh : workflow.append? draw draws kind source = some (edited, after)) :
    ∃ id before, edited = workflow.push id kind ∧ id ∉ workflow.ids ∧
      after = advanced draw (before + 1) source ∧
      drawn draw (before + 1) source = drawn draw before source ++ [id] := by
  obtain ⟨⟨id, rest⟩, found, same⟩ := Option.map_eq_some_iff.mp fresh
  cases same
  obtain ⟨before, -, -, absent, last, left⟩ := firstFresh_eq_some_iff.mp found
  exact ⟨id, before, rfl, absent, left, last⟩

theorem Revision.Makes.ids {revision : Revision} (makes : revision.Makes draw source workflow edited after) :
    (edited.ids.Subperm workflow.ids ∧ after = source) ∨
    ∃ id before, edited.ids = workflow.ids ++ [id] ∧ id ∉ workflow.ids ∧
      after = advanced draw (before + 1) source ∧
      drawn draw (before + 1) source = drawn draw before source ++ [id] := by
  cases makes with
  | append fresh =>
    obtain ⟨id, before, rfl, absent, left, last⟩ := Workflow.append?_spec fresh
    exact .inr ⟨id, before, workflow.ids_push id _, absent, left, last⟩
  | remove id => exact .inl ⟨(List.filter_sublist.map _).subperm, rfl⟩
  | update id kind params => exact .inl ⟨workflow.ids_update id kind params ▸ List.Subperm.refl _, rfl⟩
  | reorder moved => exact .inl ⟨(Workflow.ids_reorder moved).subperm, rfl⟩
  | relabel label => exact .inl ⟨List.Subperm.refl _, rfl⟩

theorem Revision.Makes.nodup {revision : Revision} (makes : revision.Makes draw source workflow edited after)
    (distinct : workflow.ids.Nodup) : edited.ids.Nodup := by
  rcases makes.ids with ⟨⟨ids, same, part⟩, -⟩ | ⟨id, -, taken, absent, -⟩
  · exact same.nodup_iff.mp (distinct.sublist part)
  · rw [taken]
    exact distinct.append (List.nodup_singleton id) (List.disjoint_singleton.mpr absent)

end

/-! ## Many edits -/

/-- The versions that come to be when each edit starts from one that is there. -/
inductive Versions {σ : Type} (revises : σ → Workflow → Workflow → σ → Prop) (start : Workflow) (first : σ) :
    List Workflow → σ → Prop
  | start : Versions revises start first [start] first
  | revised {versions : List Workflow} {workflow edited : Workflow} {source after : σ}
      (before : Versions revises start first versions source) (member : workflow ∈ versions)
      (made : revises source workflow edited after) :
      Versions revises start first (versions ++ [edited]) after

def Revised (_ : Unit) (workflow edited : Workflow) (_ : Unit) : Prop :=
  ∃ (σ : Type) (draw : σ → Text × σ) (source after : σ) (revision : Revision),
    revision.Makes draw source workflow edited after

/-- An edit that shares its source of ids, from which others may have drawn meanwhile. -/
def RevisedFrom {σ : Type} (draw : σ → Text × σ) (source : σ) (workflow edited : Workflow) (after : σ) : Prop :=
  ∃ (skipped : Nat) (revision : Revision),
    revision.Makes draw (advanced draw skipped source) workflow edited after

namespace Versions

theorem forall_mem {σ : Type} {revises : σ → Workflow → Workflow → σ → Prop} {holds : Workflow → Prop}
    (keeps : ∀ source workflow edited after, revises source workflow edited after → holds workflow → holds edited)
    {start : Workflow} {first source : σ} {versions : List Workflow} (begins : holds start)
    (history : Versions revises start first versions source) : ∀ version ∈ versions, holds version := by
  induction history with
  | start => exact List.forall_mem_singleton.mpr begins
  | revised before member made ih =>
    rw [List.forall_mem_append, List.forall_mem_singleton]
    exact ⟨ih, keeps _ _ _ _ made (ih _ member)⟩

variable {σ : Type} {draw : σ → Text × σ} {first source : σ} {versions : List Workflow}

theorem drawn_of_revisedFrom (history : Versions (RevisedFrom draw) {} first versions source) :
    ∃ draws, source = advanced draw draws first ∧
      ∀ version ∈ versions, version.ids ⊆ drawn draw draws first := by
  induction history with
  | start => exact ⟨0, rfl, List.forall_mem_singleton.mpr (List.nil_subset _)⟩
  | @revised versions workflow edited source after _ member made ih =>
    obtain ⟨draws, rfl, among⟩ := ih
    obtain ⟨skipped, revision, makes⟩ := made
    rw [← advanced_add] at makes
    -- whatever is drawn further on, the ids of the versions before stay drawn
    have further (more : Nat) : ∀ version ∈ versions, version.ids ⊆ drawn draw (draws + more) first := by
      intro version present
      rw [drawn_add]
      exact List.subset_append_of_subset_left _ (among version present)
    rcases makes.ids with ⟨fewer, left⟩ | ⟨id, before, taken, -, left, last⟩
    · refine ⟨draws + skipped, left, ?_⟩
      rw [List.forall_mem_append, List.forall_mem_singleton]
      exact ⟨further skipped, List.Subset.trans fewer.subset (further skipped workflow member)⟩
    · refine ⟨draws + (skipped + (before + 1)), ?_, ?_⟩
      · rw [left, ← advanced_add, Nat.add_assoc]
      rw [List.forall_mem_append, List.forall_mem_singleton]
      refine ⟨further _, ?_⟩
      rw [taken, List.append_subset]
      refine ⟨further _ workflow member, ?_⟩
      rw [← Nat.add_assoc, drawn_add, last]
      simp

end Versions

namespace Workflow

/-- Whatever is edited in whatever order, no version has an id twice. Where all new ids come from one source that
never repeats itself, a new one is not even the id of an action that has long been removed. -/
theorem nodup_ids_versions {start : Workflow} (begins : start = {} ∨ ∃ record, ofJson record = .ok start) :
    (∀ versions, Versions Revised start () versions () → ∀ version ∈ versions, version.ids.Nodup) ∧
    (start = {} → ∀ {σ : Type} (draw : σ → Text × σ) (first : σ), (∀ draws, (drawn draw draws first).Nodup) →
      ∀ versions source, Versions (RevisedFrom draw) start first versions source →
      ∀ workflow ∈ versions, ∀ (skipped draws : Nat) (kind : Kind) (edited : Workflow) (after : σ),
        workflow.append? draw draws kind (advanced draw skipped source) = some (edited, after) →
        ∃ id, edited = workflow.push id kind ∧ ∀ version ∈ versions, id ∉ version.ids) := by
  refine ⟨fun versions history => ?_, ?_⟩
  · have distinct : start.ids.Nodup := by
      rcases begins with rfl | ⟨record, read⟩
      · exact List.nodup_nil
      · exact (wellFormed_of_ofJson read).distinct
    refine history.forall_mem ?_ distinct
    rintro _ workflow edited _ ⟨σ, draw, source, after, revision, makes⟩
    exact makes.nodup
  · rintro rfl σ draw first never versions source history workflow _ skipped draws kind edited after fresh
    obtain ⟨passed, rfl, among⟩ := history.drawn_of_revisedFrom
    rw [← advanced_add] at fresh
    obtain ⟨id, before, made, -, -, last⟩ := append?_spec fresh
    refine ⟨id, made, fun version present used => ?_⟩
    -- the id is drawn once before the last draw and once by it
    have twice := never (passed + skipped + (before + 1))
    rw [drawn_add, last, ← List.append_assoc, List.nodup_append] at twice
    refine twice.2.2 id ?_ id (List.mem_singleton_self id) rfl
    rw [drawn_add, List.append_assoc]
    exact List.mem_append_left _ (among version present used)

/-- An action is added and taken out again, and then the first version is edited once more. -/
theorem nodup_ids_versions_branching :
    (∀ draws, (drawn IdSource.draw draws {}).Nodup) ∧
    ∃ added removed again : Workflow, ∃ source after : IdSource,
      Versions Revised {} () [{}, added] () ∧ added.ids.Nodup ∧
      Versions (RevisedFrom IdSource.draw) {} {} [{}, added, removed] source ∧ added.actions.length = 1 ∧
      removed.actions = [] ∧ append? IdSource.draw 1 .alert {} source = some (again, after) ∧
      ∃ id, again = push {} id .alert ∧ id ∉ added.ids := by
  have never : ∀ draws, (drawn IdSource.draw draws {}).Nodup := IdSource.nodup_drawn 1
  have adds : (Revision.append .alert).Makes IdSource.draw {} {} (push {} (identifier 1) .alert) ⟨[], 2⟩ :=
    .append (show append? IdSource.draw 1 .alert {} {} = some (push {} (identifier 1) .alert, ⟨[], 2⟩) from rfl)
  have one : Versions Revised {} () [{}, push {} (identifier 1) .alert] () :=
    .revised .start List.mem_cons_self ⟨_, _, _, _, _, adds⟩
  have two : Versions (RevisedFrom IdSource.draw) {} {} [{}, push {} (identifier 1) .alert] ⟨[], 2⟩ :=
    .revised .start List.mem_cons_self ⟨0, _, adds⟩
  have three := Versions.revised two (List.mem_cons_of_mem _ List.mem_cons_self) ⟨0, _, .remove (identifier 1)⟩
  obtain ⟨distinct, apart⟩ := nodup_ids_versions (.inl rfl)
  have again : append? IdSource.draw 1 .alert {} ⟨[], 2⟩ = some (push {} (identifier 2) .alert, ⟨[], 3⟩) := rfl
  obtain ⟨id, made, unused⟩ := apart rfl _ _ never _ _ three {} List.mem_cons_self 0 _ _ _ _ again
  exact ⟨never, _, _, _, _, _, one, distinct _ one _ (List.mem_cons_of_mem _ List.mem_cons_self), three, rfl,
    by simp [remove, push], again, id, made, unused _ (List.mem_cons_of_mem _ List.mem_cons_self)⟩

end Workflow

end Pushbutton
