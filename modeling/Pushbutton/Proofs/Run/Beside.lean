import Pushbutton.Proofs.Run.Invariant
import Pushbutton.Proofs.Workflow.Revision
import Pushbutton.Proofs.Workflow.SaveLoad

/-! Actions and revisions of the saved workflow keep out of each other's way: an action that neither reads nor
writes under the key of the workflow comes to the same whatever stands there, and a revision goes by nothing else. -/

set_option autoImplicit false

namespace Pushbutton

def Event.saves : Event → Bool
  | .called (.setItem key _) => key == Workflow.savedKey
  | _ => false

namespace Stage

/-! ## What actions go by -/

/-- The stages can be used, and differ in no more than the saved workflow and the traces of its revisions. -/
structure Beside (first second : Stage) : Prop where
  usable : first.store.Usable ∧ second.store.Usable
  permits : ∀ number call, first.refusal number call = none ∧ second.refusal number call = none
  held : ∀ key, key ≠ Workflow.savedKey → first.store.items.get? key = second.store.items.get? key
  output : first.output = second.output
  backed : first.backed = second.backed
  control : first.control = second.control
  host : first.host = second.host
  draws : first.draws = second.draws
  events : first.events.filter (!·.saves) = second.events.filter (!·.saves)

variable {first second : Stage}

theorem Ready.beside {stage : Stage} (ready : stage.Ready) : Beside stage stage :=
  ⟨⟨ready.usable, ready.usable⟩, fun number call => ⟨ready.permits number call, ready.permits number call⟩,
    fun _ _ => rfl, rfl, rfl, rfl, rfl, rfl, rfl⟩

theorem Beside.ready (beside : Beside first second) : first.Ready ∧ second.Ready :=
  ⟨⟨beside.usable.1, fun number call => (beside.permits number call).1⟩,
    ⟨beside.usable.2, fun number call => (beside.permits number call).2⟩⟩

theorem Beside.events_append (beside : Beside first second) (more : List Event) :
    (first.events ++ more).filter (!·.saves) = (second.events ++ more).filter (!·.saves) := by
  rw [List.filter_append, List.filter_append, beside.events]

theorem Beside.amended (change : Output → Output) (first second : Stage) (beside : Beside first second) :
    Beside { first with output := change first.output } { second with output := change second.output } :=
  { beside with output := congrArg change beside.output }

theorem Beside.quiet {change : Stage → Stage} (quiet : Quiet change) (first second : Stage)
    (beside : Beside first second) : Beside (change first) (change second) := by
  cases quiet with
  | noted entry => exact { beside with }
  | slept delay => exact { beside with events := beside.events_append _ }
  | drawn =>
    exact { beside with draws := congrArg (fun draws : Draws => { draws with used := draws.used + 1 }) beside.draws }
  | answered response => exact beside.amended (fun output => { output with response }) first second
  | disabled => exact beside.amended (fun output => { output with disabled := true }) first second
  | styled property value =>
    exact { beside with control := congrArg (Option.map (·.setStyle property value)) beside.control }

section

open Effect

theorem beside_getItem {key : Text} (apart : key ≠ Workflow.savedKey) : (getItem key).Twin Beside := by
  intro first second beside
  rw [beside.ready.1.getItem, beside.ready.2.getItem, beside.held key apart]
  exact ⟨rfl, { beside with }⟩

theorem beside_setItem (key value : Text) : (setItem key value).TwinUnless Fault.Unencodable Beside := by
  intro first second beside avoids avoidsToo
  obtain ⟨left, leftHolds, written⟩ := beside.ready.1.exists_setItem_of_avoids avoids
  obtain ⟨right, rightHolds, writtenToo⟩ := beside.ready.2.exists_setItem_of_avoids avoidsToo
  rw [written, writtenToo]
  refine ⟨rfl, { beside with usable := ⟨leftHolds.usable, rightHolds.usable⟩, held := ?_, events := ?_ }⟩
  · intro other apart
    rw [leftHolds.items, rightHolds.items, Table.get?_put, Table.get?_put, beside.held other apart]
  · exact beside.events_append _

theorem beside_bond : Bond Fault.Unencodable (· ≠ Workflow.savedKey) (fun _ => True) Beside where
  control := Beside.control
  draws := Beside.draws
  quiet := Beside.quiet
  getItem apart := (beside_getItem apart).unless _
  setItem := fun _ => beside_setItem _
  setText := by
    intro text
    apply twinUnless_modify_setItem
    · exact Beside.amended fun output => { output with text }
    · exact fun _ _ beside => beside.backed
    · exact beside_setItem _ _
  setImageUrl := by
    intro imageUrl
    apply twinUnless_modify_setItem
    · exact Beside.amended fun output => { output with imageUrl }
    · exact fun _ _ beside => beside.backed
    · exact beside_setItem _ _

theorem beside_onHost {call : Call} (onHost : call.OnHost) : call.effect.Twin Beside := by
  intro first second beside
  rw [perform_onHost onHost (beside.permits _ _).1, perform_onHost onHost (beside.permits _ _).2, beside.host]
  refine ⟨rfl, { beside with host := ?_, events := ?_ }⟩
  · exact congrArg (Host.after · call) beside.host
  · simp only [hosted, beside.host]
    exact beside.events_append _

theorem beside_dispatch {action : Action} (apart : ¬ action.Reads Workflow.savedKey) :
    action.dispatch.TwinUnless Fault.Unencodable Beside := by
  apply beside_bond.dispatch
  · rintro key reads rfl
    exact apart reads
  · exact fun _ _ => trivial
  · exact beside_bond.onHost fun _ onHost _ => (beside_onHost onHost).unless _

theorem keeps_beside_revise (second : Stage) (revision : Revision) :
    (revise revision).KeepsUnless Fault.Unencodable fun first => Beside first second := by
  refine twinUnless_only_iff.mp (twinUnless_revise ?_ (fun value => ?_) (fun entry => ?_) ?_ ?_ revision)
  · refine twin_only_iff.mpr fun first beside => ?_
    rw [beside.ready.1.getItem]
    exact { beside with }
  · refine twinUnless_only_iff.mpr fun first beside avoids => ?_
    obtain ⟨changed, holds, written⟩ := beside.ready.1.exists_setItem_of_avoids avoids
    rw [written]
    refine { beside with usable := ⟨holds.usable, beside.usable.2⟩, held := ?_, events := ?_ }
    · intro key apart
      rw [holds.items, Table.get?_put, if_neg (Ne.symm apart)]
      exact beside.held key apart
    · have hidden : [Event.called (.setItem Workflow.savedKey value)].filter (!·.saves) = [] := by
        simp [Event.saves]
      exact (List.filter_append _ _).trans (by rw [hidden, List.append_nil, beside.events])
  · exact twin_only_iff.mpr fun first beside => { beside with }
  · rintro first _ ⟨rfl, _⟩
    rfl
  · rintro ids first _ ⟨rfl, beside⟩
    exact ⟨rfl, { beside with }⟩

end

/-! ## What revisions go by -/

structure Aligned (first second : Stage) : Prop where
  steady : Steady (· = Workflow.savedKey) second first
  ready : second.Ready

theorem Ready.aligned {stage : Stage} (ready : stage.Ready) : Aligned stage stage := ⟨ready.steady, ready⟩

theorem Aligned.held (aligned : Aligned first second) :
    first.store.items.get? Workflow.savedKey = second.store.items.get? Workflow.savedKey :=
  aligned.steady.held _ rfl

theorem Aligned.of_unmoved (aligned : Aligned first second) {left right : Stage} (one : Unmoved first left)
    (other : Unmoved second right) : Aligned left right := by
  refine ⟨⟨one.ready aligned.steady.ready, fun key same => ?_, ?_⟩, other.ready aligned.ready⟩
  · rw [one.store, other.store]
    exact aligned.steady.held key same
  · rw [one.ids, other.ids, aligned.steady.ids]

section

open Effect

theorem aligned_revise (revision : Revision) : (revise revision).TwinUnless Fault.Unencodable Aligned := by
  apply twinUnless_revise
  · intro first second aligned
    rw [aligned.steady.ready.getItem, aligned.ready.getItem, aligned.held]
    exact ⟨rfl, aligned.of_unmoved ⟨rfl, rfl, rfl⟩ ⟨rfl, rfl, rfl⟩⟩
  · intro value first second aligned avoids avoidsToo
    have ready := aligned.steady.ready
    obtain ⟨left, leftHolds, written⟩ := ready.exists_setItem_of_avoids avoids
    obtain ⟨right, rightHolds, writtenToo⟩ := aligned.ready.exists_setItem_of_avoids avoidsToo
    rw [written, writtenToo]
    refine ⟨rfl, ⟨⟨leftHolds.usable, ready.permits⟩, ?_, aligned.steady.ids⟩, rightHolds.usable,
      aligned.ready.permits⟩
    rintro _ rfl
    rw [leftHolds.items, rightHolds.items, Table.get?_put, Table.get?_put, if_pos rfl, if_pos rfl]
  · exact fun entry => twin_modify fun _ _ aligned => aligned.of_unmoved ⟨rfl, rfl, rfl⟩ ⟨rfl, rfl, rfl⟩
  · exact fun _ _ aligned => aligned.steady.ids
  · intro ids first second aligned
    exact ⟨⟨aligned.steady.ready.of_eq rfl rfl, aligned.steady.held, rfl⟩, aligned.ready.of_eq rfl rfl⟩

theorem aligned_load (aligned : Aligned first second) :
    ((load Workflow.savedKey).perform first).1 = ((load Workflow.savedKey).perform second).1 := by
  obtain ⟨left, loads, _⟩ := aligned.steady.ready.load Workflow.savedKey
  obtain ⟨right, loadsToo, _⟩ := aligned.ready.load Workflow.savedKey
  rw [loads, loadsToo, Store.saved, Store.saved, aligned.held]

theorem keeps_aligned_dispatch (second : Stage) {action : Action} (apart : ¬ action.Writes Workflow.savedKey) :
    action.dispatch.KeepsUnless Fault.Unencodable fun first => Aligned first second := by
  intro first aligned avoids
  refine ⟨Action.keeps_dispatch ?_ ?_ ?_ first aligned.steady avoids, aligned.ready⟩
  · rintro key writes rfl
    exact apart writes
  · decide
  · decide

end

end Stage

end Pushbutton
