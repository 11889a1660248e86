import Mathlib.Data.List.InsertIdx
import Pushbutton.Proofs.Workflow.Edit
import Pushbutton.Proofs.Workflow.Revision

/-! Moving an action: which moves are refused and how, what a move leaves as it was, and the move that undoes it.
A place to take from is counted in the whole list, a place to put at in what is left of it. -/

set_option autoImplicit false

namespace Pushbutton

/-! ## One item somewhere else -/

/-- One list is the other with the item at one place put at another. The rest is in its order. -/
structure Spliced {α : Type} (items moved : List α) (source target : Nat) : Prop where
  inside : source < items.length
  there : target < moved.length
  item : moved[target]? = items[source]?
  others : moved.eraseIdx target = items.eraseIdx source

namespace Spliced

section

variable {α : Type} {items moved : List α} {source target : Nat}

theorem symm (spliced : Spliced items moved source target) : Spliced moved items target source :=
  ⟨spliced.there, spliced.inside, spliced.item.symm, spliced.others.symm⟩

theorem getElem_eq (spliced : Spliced items moved source target) (there : target < moved.length)
    (inside : source < items.length) : moved[target] = items[source] := by
  have item := spliced.item
  rwa [List.getElem?_eq_getElem there, List.getElem?_eq_getElem inside, Option.some.injEq] at item

theorem perm (spliced : Spliced items moved source target) : moved.Perm items := by
  have taken := List.getElem_cons_eraseIdx_perm spliced.inside
  rw [← spliced.getElem_eq spliced.there, ← spliced.others] at taken
  exact (List.getElem_cons_eraseIdx_perm spliced.there).symm.trans taken

theorem length_eq (spliced : Spliced items moved source target) : moved.length = items.length :=
  spliced.perm.length_eq

theorem eq_insertIdx (spliced : Spliced items moved source target) (inside : source < items.length) :
    moved = (items.eraseIdx source).insertIdx target items[source] := by
  rw [← spliced.others, ← spliced.getElem_eq spliced.there inside, List.insertIdx_eraseIdx_getElem]

theorem insertIdx (inside : source < items.length) (there : target ≤ (items.eraseIdx source).length) :
    Spliced items ((items.eraseIdx source).insertIdx target items[source]) source target := by
  have longer := List.length_insertIdx_of_le_length there items[source]
  have placed : target < ((items.eraseIdx source).insertIdx target items[source]).length := by omega
  refine ⟨inside, placed, ?_, List.eraseIdx_insertIdx_self _⟩
  rw [List.getElem?_eq_getElem placed, List.getElem?_eq_getElem inside, List.getElem_insertIdx_self]

/-- A machine word counts the items of any list that there is, and then the move can be made. -/
theorem moveItem_eq (spliced : Spliced items moved source target) (counted : isWord items.length = true) :
    moveItem items source target = .ok moved := by
  have there : target < items.length := spliced.length_eq ▸ spliced.there
  rw [moveItem_within spliced.inside there counted, ← spliced.eq_insertIdx]

end

end Spliced

/-! ## The move of an action -/

namespace MoveFault

def Refuses (edit : Except MoveFault Workflow) (kind : String) : Prop :=
  ∃ fault : MoveFault, edit = .error fault ∧ fault.raised.kind = kind

theorem refuses_error {fault : MoveFault} {kind : String} :
    Refuses (.error fault) kind ↔ fault.raised.kind = kind := by
  simp [Refuses]

theorem not_refuses_ok {workflow : Workflow} {kind : String} : ¬ Refuses (.ok workflow) kind := by
  simp [Refuses]

end MoveFault

namespace Workflow

open MoveFault

variable {workflow : Workflow} {source target : Int}

theorem reorder_some (workflow : Workflow) (source target : Int) :
    workflow.reorder source (some target) =
      (moveItem workflow.actions source target).map fun actions => { workflow with actions } := rfl

theorem reorder_of_position {place : Nat} (word : isWord source = true) (counted : isWord target = true)
    (found : position? workflow.actions.length source = some place) :
    ∃ actions, workflow.reorder source (some target) = .ok { workflow with actions } ∧
      Spliced workflow.actions actions place (insertionPoint (workflow.actions.length - 1) target) := by
  have inside := (position?_eq_some_iff.mp found).1
  have there : insertionPoint (workflow.actions.length - 1) target ≤
      (workflow.actions.eraseIdx place).length := by
    rw [List.length_eraseIdx_of_lt inside]
    exact insertionPoint_le _ _
  have moved : moveItem workflow.actions source target = _ := moveItem_of_position word found inside
  rw [counted, if_pos rfl] at moved
  exact ⟨_, by rw [reorder_some, moved, Except.map], Spliced.insertIdx inside there⟩

theorem reorder_back {actions : List Action} {here there : Nat}
    (spliced : Spliced workflow.actions actions here there)
    (counted : isWord workflow.actions.length = true) :
    { workflow with actions }.reorder there (some here) = .ok workflow := by
  have moved := spliced.symm.moveItem_eq (spliced.length_eq ▸ counted)
  rw [reorder_some, moved, Except.map]

theorem reorder_refused_iff {kind : String} :
    Refuses (workflow.reorder source (some target)) kind ↔
      (isWord source = false ∧ "OverflowError" = kind) ∨
      (isWord source = true ∧ position? workflow.actions.length source = none ∧ "IndexError" = kind) ∨
      (isWord source = true ∧ (∃ place, position? workflow.actions.length source = some place) ∧
        isWord target = false ∧ "OverflowError" = kind) := by
  cases word : isWord source with
  | false =>
    rw [reorder_some, moveItem_of_beyond word, Except.map, refuses_error]
    simp [raised, Fault.kind]
  | true =>
    cases found : position? workflow.actions.length source with
    | none =>
      rw [reorder_some, moveItem_of_outside word found, Except.map, refuses_error]
      split <;> simp [raised, Fault.kind]
    | some place =>
      cases counted : isWord target with
      | true =>
        obtain ⟨actions, moved, -⟩ := reorder_of_position word counted found
        simp [moved, not_refuses_ok]
      | false =>
        have inside := (position?_eq_some_iff.mp found).1
        rw [reorder_some, moveItem_of_position word found inside, counted]
        simp [Except.map, refuses_error, raised, Fault.kind]

/-- Whatever numbers a move is asked for with: only a place that is not there is an index error, and only a number
that no machine word holds is an overflow. Every other move is made, the place to put at being cut to the ones
that the remaining actions have, and the reverse move undoes it. -/
theorem reorder_spliced (workflow : Workflow) (source target : Int) :
    let count : Int := workflow.actions.length
    let among : Prop := -count ≤ source ∧ source < count
    (Refuses (workflow.reorder source (some target)) "IndexError" ↔ isWord source = true ∧ ¬ among) ∧
    (Refuses (workflow.reorder source (some target)) "OverflowError" ↔
      isWord source = false ∨ (among ∧ isWord target = false)) ∧
    (among → isWord source = true → isWord target = true →
      ∃ edited : Workflow, ∃ here there : Nat,
        workflow.reorder source (some target) = .ok edited ∧
        (here : Int) = (if source < 0 then source + count else source) ∧
        (there : Int) = (if target < 0 then max 0 (target + (count - 1)) else min target (count - 1)) ∧
        edited.label = workflow.label ∧
        edited.actions.Perm workflow.actions ∧
        Spliced workflow.actions edited.actions here there ∧
        (isWord count = true → edited.reorder there (some (here : Int)) = .ok workflow) ∧
        (isWord count = true → 0 ≤ source → 0 ≤ target → target < count →
          edited.reorder target (some source) = .ok workflow)) := by
  intro count among
  have found : (∃ place, position? workflow.actions.length source = some place) ↔ among := exists_position?_iff
  have lost : position? workflow.actions.length source = none ↔ ¬ among := by
    rw [← found, Option.eq_none_iff_forall_ne_some, not_exists]
  refine ⟨?_, ?_, ?_⟩
  · rw [reorder_refused_iff, found, lost]
    simp
  · rw [reorder_refused_iff, found, lost]
    cases isWord source <;> simp
  · intro within word counted
    obtain ⟨here, place⟩ := found.mpr within
    obtain ⟨actions, moved, spliced⟩ := reorder_of_position word counted place
    have atHere : (here : Int) = if source < 0 then source + count else source :=
      (position?_eq_some_iff.mp place).2
    have inside : 0 < workflow.actions.length := Nat.zero_lt_of_lt spliced.inside
    have atThere := natCast_insertionPoint (workflow.actions.length - 1) target
    rw [show ((workflow.actions.length - 1 : Nat) : Int) = count - 1 by omega] at atThere
    refine ⟨_, here, _, moved, atHere, atThere, rfl, spliced.perm, spliced, reorder_back spliced, ?_⟩
    intro few front ahead ends
    have undone := reorder_back spliced few
    rwa [atThere, atHere, if_neg (by omega), if_neg (by omega), min_eq_left (by omega)] at undone

def threeSilent : Workflow := ⟨"Go", (["a", "b", "c"] : List Text).map fun id => ⟨id, .showText, {}⟩⟩

theorem reorder_spliced_backward :
    isWord threeSilent.actions.length = true ∧ isWord (-1) = true ∧ isWord (-2) = true ∧
      ∃ edited : Workflow, threeSilent.reorder (-1) (some (-2)) = .ok edited ∧
        edited.actions[0]? = threeSilent.actions[2]? ∧ edited.reorder 0 (some 2) = .ok threeSilent := by
  refine ⟨by decide, by decide, by decide, ?_⟩
  obtain ⟨edited, here, there, moved, atHere, atThere, -, -, spliced, undone, -⟩ :=
    (reorder_spliced threeSilent (-1) (-2)).2.2 (by decide) (by decide) (by decide)
  obtain rfl : here = 2 := Int.ofNat_inj.mp (atHere.trans (by decide))
  obtain rfl : there = 0 := Int.ofNat_inj.mp (atThere.trans (by decide))
  exact ⟨edited, moved, spliced.item, undone (by decide)⟩

/-- The place to take from is not there, and this is no index error; the place to put at would be cut to the last
one, and the move is not made. -/
theorem reorder_beyondWord :
    (¬ (-3 ≤ (0x8000000000000000 : Int) ∧ (0x8000000000000000 : Int) < 3) ∧
      ¬ Refuses (threeSilent.reorder 0x8000000000000000 (some 0)) "IndexError") ∧
    (-3 ≤ (0 : Int) ∧ (0 : Int) < 3 ∧
      ¬ ∃ edited, threeSilent.reorder 0 (some 0x8000000000000000) = .ok edited) := by
  have source : threeSilent.reorder 0x8000000000000000 (some 0) = .error .beyondWord := rfl
  have target : threeSilent.reorder 0 (some 0x8000000000000000) = .error .beyondWord := rfl
  refine ⟨⟨by decide, ?_⟩, by decide, by decide, ?_⟩
  · rw [source, refuses_error]
    decide
  · rw [target]
    rintro ⟨edited, made⟩
    cases made

end Workflow

end Pushbutton
