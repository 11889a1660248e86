import Pushbutton.Proofs.Stage.Access

/-! Stores as tables: whatever is asked of a store that can be used, it answers as a table in memory that
holds the same items, and it holds the same items afterwards, as long as nothing is to be written that has no octets. -/

set_option autoImplicit false

namespace Pushbutton

inductive Access where
  | get (key : Text)
  | set (key value : Text)
  | remove (key : Text)
  | clear
  | snapshot
  deriving DecidableEq, Repr

inductive Reply where
  | item (value : Option Text)
  | items (items : Table Text Text)
  | done
  deriving DecidableEq, Repr

namespace Access

def issue : Access → Effect Reply
  | .get key => return .item (← Stage.getItem key)
  | .set key value => do
    Stage.setItem key value
    return .done
  | .remove key => do
    Stage.removeItem key
    return .done
  | .clear => do
    Stage.clear
    return .done
  | .snapshot => return .items (← Stage.items)

/-- The access by way of a store on a file. Such a store is its path: it finds the files as they are. -/
def through (path : Path) (access : Access) : Effect Reply := do
  modify fun stage => { stage with store := .file path stage.store.tree }
  access.issue

theorem through_eq {stage : Stage} {path : Path} (place : stage.store.path? = some path) (access : Access) :
    (access.through path).perform stage = access.issue.perform stage := by
  have same : Store.file path stage.store.tree = stage.store := by
    cases held : stage.store with
    | memory items => rw [held] at place; cases place
    | file other tree => rw [held] at place; cases place; rfl
  rw [through, Effect.perform_bind_of_ok (Effect.perform_modify _ stage)]
  rw [same]

/-! ## Tables -/

def reply (items : Table Text Text) : Access → Reply
  | .get key => .item (items.get? key)
  | .snapshot => .items items
  | .set _ _ | .remove _ | .clear => .done

def change (items : Table Text Text) : Access → Table Text Text
  | .set key value => items.put key value
  | .remove key => items.erase key
  | .clear => []
  | .get _ | .snapshot => items

theorem distinct_change {items : Table Text Text} (distinct : items.Distinct) (access : Access) :
    (access.change items).Distinct := by
  cases access with
  | set key value => exact distinct.put key value
  | remove key => exact distinct.erase key
  | clear => exact Table.distinct_nil
  | get key | snapshot => exact distinct

def Fits (store : Store) (items : Table Text Text) : Access → Prop
  | .set key value => store.Takes (items.put key value)
  | .remove key => items.contains key = true → store.Takes (items.erase key)
  | .get _ | .clear | .snapshot => True

def Fitting (store : Store) : List Access → Table Text Text → Prop
  | [], _ => True
  | access :: rest, items => access.Fits store items ∧ Fitting store rest (access.change items)

theorem Fits.of_path? {store other : Store} {items : Table Text Text} {access : Access}
    (fits : access.Fits store items) (place : other.path? = store.path?) : access.Fits other items := by
  cases access with
  | set key value => exact Store.Takes.of_path? fits place
  | remove key => exact fun held => (fits held).of_path? place
  | get | clear | snapshot => trivial

theorem Fitting.of_path? {store other : Store} {accesses : List Access} {items : Table Text Text}
    (fits : Fitting store accesses items) (place : other.path? = store.path?) : Fitting other accesses items := by
  induction accesses generalizing items with
  | nil => trivial
  | cons access rest ih => exact ⟨fits.1.of_path? place, ih fits.2⟩

theorem fitting_memory (held : Table Text Text) (accesses : List Access) (items : Table Text Text) :
    Fitting (.memory held) accesses items := by
  induction accesses generalizing items with
  | nil => trivial
  | cons access rest ih =>
    refine ⟨?_, ih _⟩
    cases access with
    | set key value => exact Store.takes_memory
    | remove key => exact fun _ => Store.takes_memory
    | get | clear | snapshot => trivial

def texts : Access → List Text
  | .set key value => [key, value]
  | .get _ | .remove _ | .clear | .snapshot => []

/-- Where nothing has halves at first, nothing ever has but what is set. -/
theorem fitting_of_takes {store : Store} {accesses : List Access} {items : Table Text Text}
    (takes : store.Takes items) (given : ∀ access ∈ accesses, ∀ text ∈ access.texts, store.Fits text) :
    Fitting store accesses items := by
  induction accesses generalizing items with
  | nil => trivial
  | cons access rest ih =>
    obtain ⟨first, later⟩ := List.forall_mem_cons.mp given
    cases access with
    | set key value =>
      have put := takes.put (first key (by simp [texts])) (first value (by simp [texts]))
      exact ⟨put, ih put later⟩
    | remove key => exact ⟨fun _ => takes.erase key, ih (takes.erase key) later⟩
    | clear => exact ⟨trivial, ih (Store.takes_nil store) later⟩
    | get | snapshot => exact ⟨trivial, ih takes later⟩

/-! ## Stores -/

structure Answered (access : Access) (stage after : Stage) : Prop where
  answer : access.issue.perform stage = (.ok (access.reply stage.store.items), after)
  ready : after.Ready
  items : after.store.items = access.change stage.store.items
  place : after.store.path? = stage.store.path?

theorem answered {stage : Stage} (ready : stage.Ready) {access : Access}
    (fits : access.Fits stage.store stage.store.items) : ∃ after, access.Answered stage after := by
  have replaces := fun takes => ready.usable.replace takes (distinct_change ready.usable.distinct access)
  cases access with
  | get key =>
    refine ⟨stage.counted.noted, ?_, ready.counted.noted, rfl, rfl⟩
    rw [issue, Effect.perform_bind_of_ok (ready.getItem key)]
    rfl
  | set key value =>
    obtain ⟨changed, replaced, holds, place⟩ := replaces fits
    refine ⟨_, ?_, (ready.called (.setItem key value)).noted.holding holds, holds.items, place⟩
    rw [issue, Effect.perform_bind_of_ok (ready.setItem replaced)]
    rfl
  | remove key =>
    cases held : stage.store.items.contains key with
    | true =>
      obtain ⟨changed, replaced, holds, place⟩ := replaces (fits held)
      refine ⟨_, ?_, (ready.called (.removeItem key)).noted.holding holds, holds.items, place⟩
      rw [issue, Effect.perform_bind_of_ok (ready.removeItem held replaced)]
      rfl
    | false =>
      -- nothing is written for a name that is not held, and a table without it is not changed by erasing
      have absent : stage.store.items.get? key = none := by simpa [Table.contains] using held
      refine ⟨(stage.called (.removeItem key)).noted, ?_, (ready.called (.removeItem key)).noted,
        (Table.erase_eq_self _ _ absent).symm, rfl⟩
      rw [issue, Effect.perform_bind_of_ok (ready.removeItem_absent held)]
      rfl
  | clear =>
    obtain ⟨changed, replaced, holds, place⟩ := replaces (Store.takes_nil _)
    refine ⟨_, ?_, (ready.called .clear).holding holds, holds.items, place⟩
    rw [issue, Effect.perform_bind_of_ok (ready.clear replaced)]
    rfl
  | snapshot =>
    refine ⟨stage.noted, ?_, ready.noted, rfl, rfl⟩
    rw [issue, Effect.perform_bind_of_ok ready.items]
    rfl

/-- An access that does not fit raises a fault and leaves nothing. -/
theorem raises {stage : Stage} (ready : stage.Ready) {access : Access}
    (unfit : ¬ access.Fits stage.store stage.store.items) :
    ∃ fault after, access.issue.perform stage = (.error (.unencodable fault), after) ∧
      after.store.Emptied ∧ after.store.path? = stage.store.path? := by
  cases access with
  | set key value =>
    obtain ⟨fault, emptied, failed⟩ := Stage.perform_setItem_unfit ready.usable unfit (ready.permits _ _)
    have place := (ready.usable.replace_unfit unfit).2.2
    exact ⟨fault, _, Effect.perform_bind_of_error failed _, emptied, place⟩
  | remove key =>
    rw [Fits, Classical.not_imp] at unfit
    obtain ⟨⟨fault, failed⟩, emptied, place⟩ := ready.usable.replace_unfit unfit.2
    have items := (ready.called (.removeItem key)).items
    have removed : (Stage.removeItem key).perform stage = (.error (.unencodable fault),
        { (stage.called (.removeItem key)).noted with store := stage.store.abandoned }) := by
      rw [Stage.removeItem, Effect.perform_bind_of_ok (ready.call _), Effect.perform_bind_of_ok items,
        Stage.store_called, if_pos unfit.1]
      exact Stage.perform_replaceItems_of_error failed
    exact ⟨fault, _, Effect.perform_bind_of_error removed _, emptied, place⟩
  | get | clear | snapshot => exact absurd trivial unfit

end Access

/-! ## One access after another -/

/-- What a store stands for. A file that cannot be read stands for no table at all. -/
def Store.held : Store → Except FileFault (Table Text Text)
  | .memory items => .ok items
  | .file path tree => (tree.content? path).map itemsOfFile

theorem Store.Usable.held {store : Store} (usable : store.Usable) : store.held = .ok store.items := by
  cases store with
  | memory items => rfl
  | file path tree =>
    obtain ⟨⟨contents, read⟩, _⟩ := usable
    simp only [Store.held, Store.items]
    simp only [Store.contents] at read
    split at read
    · next found => rw [found]; rfl
    · next found => rw [found]; rfl
    · cases read

def observed {ι α : Type} (act : ι → Effect α) :
    List ι → Stage → List (Except Fault α × Except FileFault (Table Text Text))
  | [], _ => []
  | input :: rest, stage =>
    let performed := (act input).perform stage
    (performed.1, performed.2.store.held) :: observed act rest performed.2

def Access.replies :
    List Access → Table Text Text → List (Except Fault Reply × Except FileFault (Table Text Text))
  | [], _ => []
  | access :: rest, items =>
    (.ok (access.reply items), .ok (access.change items)) :: replies rest (access.change items)

theorem observed_issue {stage : Stage} (ready : stage.Ready) {accesses : List Access}
    (fits : Access.Fitting stage.store accesses stage.store.items) :
    observed Access.issue accesses stage = Access.replies accesses stage.store.items := by
  induction accesses generalizing stage with
  | nil => rfl
  | cons access rest ih =>
    obtain ⟨after, answer, still, items, place⟩ := Access.answered ready fits.1
    have later := fits.2.of_path? place
    rw [← items] at later
    rw [observed, Access.replies, answer, ← items, ← ih still later, still.usable.held]

theorem observed_through {stage : Stage} {path : Path} (ready : stage.Ready)
    (place : stage.store.path? = some path) {calls : List (Path × Access)}
    (same : ∀ call ∈ calls, call.1 = path)
    (fits : Access.Fitting stage.store (calls.map (·.2)) stage.store.items) :
    observed (fun call => call.2.through call.1) calls stage =
      Access.replies (calls.map (·.2)) stage.store.items := by
  induction calls generalizing stage with
  | nil => rfl
  | cons call rest ih =>
    obtain ⟨after, answer, still, items, kept⟩ := Access.answered ready fits.1
    -- the store that this call opens is the one that the call before it left
    have opened : (call.2.through call.1).perform stage = call.2.issue.perform stage := by
      rw [same call List.mem_cons_self]
      exact Access.through_eq place call.2
    have others : ∀ call ∈ rest, call.1 = path := fun call later => same call (List.mem_cons_of_mem _ later)
    have later := fits.2.of_path? kept
    rw [← items] at later
    rw [observed, List.map_cons, Access.replies, opened, answer, ← items, still.usable.held]
    rw [ih still (kept.trans place) others later]

/-- Stores on one file, however many, in whatever turn and whatever the file holds at first, answer as one
table in memory that starts with the items of the file; and the file always stands for that table. This goes on until
a call is to write an item with a half, which raises a fault and leaves an empty file. No call ever is, if there are no
halves in the items at first and none are set. -/
theorem file_refines_memory {stage : Stage} {path : Path} {tree : FileTree} {content : Option ByteArray}
    (place : stage.store = .file path tree) (found : tree.content? path = .ok content) (ready : stage.Ready) :
    (∀ calls : List (Path × Access), (∀ call ∈ calls, call.1 = path) →
      (Access.Fitting stage.store (calls.map (·.2)) (itemsOfFile content) →
        observed (fun call => call.2.through call.1) calls stage =
          observed Access.issue (calls.map (·.2)) { stage with store := .memory (itemsOfFile content) } ∧
        observed Access.issue (calls.map (·.2)) { stage with store := .memory (itemsOfFile content) } =
          Access.replies (calls.map (·.2)) (itemsOfFile content)) ∧
      ((∀ entry ∈ itemsOfFile content, entry.1.Whole ∧ entry.2.Whole) →
        (∀ call ∈ calls, ∀ text ∈ call.2.texts, text.Whole) →
        Access.Fitting stage.store (calls.map (·.2)) (itemsOfFile content))) ∧
    ∀ access : Access, ¬ access.Fits stage.store (itemsOfFile content) →
      ∃ fault after, (access.through path).perform stage = (.error (.unencodable fault), after) ∧
        after.store.tree.content? path = .ok (some .empty) ∧ after.store.held = .ok [] := by
  have items : stage.store.items = itemsOfFile content := by rw [place, Store.items, found]
  have there : stage.store.path? = some path := by rw [place]; rfl
  have table : Stage.Ready { stage with store := .memory (itemsOfFile content) } :=
    ⟨distinct_itemsOfFile content, ready.permits⟩
  constructor
  · refine fun calls same => ⟨fun fits => ?_, fun wholeItems given => ?_⟩
    · have memory := observed_issue table (Access.fitting_memory _ (calls.map (·.2)) _)
      refine ⟨?_, memory⟩
      rw [← items] at fits
      rw [observed_through ready there same fits, items]
      exact memory.symm
    · rw [place]
      have takes : Store.Takes (.file path tree) (itemsOfFile content) := fun entry member =>
        ⟨Store.fits_file.mpr (wholeItems entry member).1, Store.fits_file.mpr (wholeItems entry member).2⟩
      refine Access.fitting_of_takes takes fun access among text stored => ?_
      obtain ⟨call, member, rfl⟩ := List.mem_map.mp among
      exact Store.fits_file.mpr (given call member text stored)
  · intro access unfit
    rw [← items] at unfit
    obtain ⟨fault, after, raised, emptied, still⟩ := Access.raises ready unfit
    refine ⟨fault, after, (Access.through_eq there access).trans raised, ?_, ?_⟩
    · exact emptied.octets path (still.trans there)
    · rw [emptied.usable.held, emptied.items]

def mixedText : String := "\x7b\"a\": \"1\", \"b\": 2, \"a\": \"3\"\x7d"

def mixedTree : FileTree := [("state", .directory), ("state/items", .file mixedText.toUTF8)]

def mixedPlace : Path := ⟨.working, ["state", "items"]⟩

theorem read_mixedText : Contents.ofOctets mixedText.toUTF8 = .ok ⟨[("a", "3")], false⟩ := by
  have read : Contents.ofText mixedText = .ok ⟨[("a", "3")], false⟩ := by decide +kernel
  rw [Contents.ofOctets, Text.decodeUtf8_toUTF8]
  exact read

def mixedCalls : List (Path × Access) :=
  [(mixedPlace, .get "a"), (mixedPlace, .set "b" "\n"), (mixedPlace, .set "a" "4"),
    (mixedPlace, .remove "c"), (mixedPlace, .snapshot)]

theorem ready_mixed : Stage.Ready { store := .file mixedPlace mixedTree } := by
  have opened : FileTree.Open mixedTree mixedPlace ["state", "items"] := ⟨rfl, rfl⟩
  exact ⟨⟨⟨_, read_mixedText⟩, .empty, _, opened.save _⟩, fun _ _ => rfl⟩

theorem file_refines_memory_mixed :
    observed (fun call : Path × Access => call.2.through call.1) mixedCalls
      { store := .file mixedPlace mixedTree } =
    [(.ok (.item (some "3")), .ok [("a", "3")]),
      (.ok .done, .ok [("a", "3"), ("b", "\n")]),
      (.ok .done, .ok [("a", "4"), ("b", "\n")]),
      (.ok .done, .ok [("a", "4"), ("b", "\n")]),
      (.ok (.items [("a", "4"), ("b", "\n")]), .ok [("a", "4"), ("b", "\n")])] := by
  have items : itemsOfFile (some mixedText.toUTF8) = [(("a" : Text), ("3" : Text))] :=
    (Contents.ofOctets_items read_mixedText).symm
  have found : mixedTree.content? mixedPlace = .ok (some mixedText.toUTF8) := rfl
  obtain ⟨refines, fits⟩ := (file_refines_memory rfl found ready_mixed).1 mixedCalls (by simp [mixedCalls])
  have whole : ∀ entry ∈ itemsOfFile (some mixedText.toUTF8), entry.1.Whole ∧ entry.2.Whole := by
    rw [items]
    decide
  have answers := refines (fits whole (by simp [mixedCalls, Access.texts]))
  rw [answers.1, answers.2, items]
  rfl

/-- With a half in the file a table in memory goes on, and the file is lost. -/
theorem file_refines_memory_unless_halved :
    Stage.Ready { store := .halved } ∧
      observed (fun call : Path × Access => call.2.through call.1) [(Store.halvedPlace, .set "a" "b")]
        { store := .halved } ≠
      observed Access.issue [.set "a" "b"] { store := .memory Store.halved.items } := by
  have ready : Stage.Ready { store := .halved } := ⟨Store.usable_halved, fun _ _ => rfl⟩
  have table : Stage.Ready { store := .memory Store.halved.items } := ⟨ready.usable.distinct, fun _ _ => rfl⟩
  have unfit : ¬ Access.Fits .halved Store.halved.items (.set "a" "b") := Store.unfit_halved (by decide) "b"
  obtain ⟨fault, after, raised, _⟩ := Access.raises ready unfit
  have through : (Access.through Store.halvedPlace (.set "a" "b")).perform { store := .halved } =
      (.error (.unencodable fault), after) := by
    rw [Access.through_eq rfl]
    exact raised
  refine ⟨ready, fun same => ?_⟩
  rw [observed_issue table (Access.fitting_memory _ _ _), observed, Access.replies, List.cons.injEq,
    Prod.mk.injEq] at same
  have answers := same.1.1
  simp only [through] at answers
  cases answers

end Pushbutton
