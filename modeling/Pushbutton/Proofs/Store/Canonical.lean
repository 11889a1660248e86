import Pushbutton.Proofs.Stage.Spared
import Pushbutton.Proofs.Store.Refinement

/-! What a file holds once a store on it was used: the octets from before, unless something was to be written, and
then the one text that its items have. -/

set_option autoImplicit false

namespace Pushbutton

namespace FileTree

theorem get?_of_walk_file {tree : FileTree} {start parts location : List String} {content : ByteArray}
    (leads : tree.walk start parts = .file location content) :
    Table.get? tree (key location) = some (.file content) := by
  induction parts generalizing start with
  | nil => cases leads
  | cons part rest ih =>
    rw [walk] at leads
    split at leads
    · exact ih leads
    · dsimp only at leads
      split at leads
      · exact ih leads
      · next found =>
        split at leads
        · cases leads
          exact found
        · cases leads
      · split at leads <;> cases leads

theorem save_of_fileAt? {tree : FileTree} {path : Path} {content : ByteArray}
    (held : tree.fileAt? path = some content) : tree.save path content = .ok tree := by
  obtain ⟨location, leads⟩ := find_of_fileAt? held
  have ready : tree.Open path location := ⟨find_parent_of_fileAt? held, by rw [leads]; rfl⟩
  rw [ready.save, Table.put_get? _ _ _ (get?_of_walk_file leads)]

end FileTree

/-! ## The written form -/

namespace Store

def Written (store : Store) (items : Table Text Text) : Prop :=
  ∃ octets, (fileText items).encode = .ok octets ∧ store.octets? = some octets

def Canonical (store : Store) : Prop := store.Written store.items

variable {store changed : Store} {items : Table Text Text} {path : Path}

theorem Intact.canonical {after : Store} (intact : store.Intact after) (canonical : store.Canonical) :
    after.Canonical := by
  rw [Canonical, Written, intact.octets?, intact.items]
  exact canonical

theorem Canonical.takes (canonical : store.Canonical) : store.Takes store.items := by
  cases store with
  | memory items => exact takes_memory
  | file path tree =>
    obtain ⟨octets, encoded, _⟩ := canonical
    exact takes_file.mpr (Text.whole_of_encode encoded)

theorem distinct_items_of_path? (place : store.path? = some path) : store.items.Distinct := by
  cases store with
  | memory items => cases place
  | file path tree => exact distinct_items_file path tree

theorem canonical_of_replace (place : store.path? = some path) (distinct : items.Distinct)
    (replaced : store.replace items = .ok changed) : changed.Canonical ∧ changed.items = items := by
  have held := (holds_of_replace distinct replaced).1.items
  refine ⟨?_, held⟩
  cases store with
  | memory items => cases place
  | file path tree =>
    obtain ⟨text, same, written, saved, rfl⟩ := replace_file_eq_ok_iff.mp replaced
    rw [Canonical, held]
    exact ⟨text.toUTF8, same ▸ Text.encode_ofString text, FileTree.fileAt?_of_content? (FileTree.content?_save saved)⟩

theorem Canonical.replace (canonical : store.Canonical) : store.replace store.items = .ok store := by
  cases store with
  | memory items => rfl
  | file path tree =>
    obtain ⟨octets, encoded, held⟩ := canonical
    obtain ⟨text, same, rfl⟩ := Text.encode_eq_ok_iff.mp encoded
    exact replace_file_eq_ok_iff.mpr ⟨text, same, tree, FileTree.save_of_fileAt? held, rfl⟩

end Store

/-! ## Uses -/

/-- What a store is used for: an access, a saved workflow, or the output that it kept. -/
inductive Use where
  | access (asked : Access)
  | load (key : Text)
  | restore
  deriving DecidableEq, Repr

namespace Use

def effect : Use → Effect Unit
  | .access asked => do
    let _ ← asked.issue
  | .load key => do
    let _ ← Stage.load key
  | .restore => Stage.restore

def writes (items : Table Text Text) : Use → Bool
  | .access (.set _ _) | .access .clear => true
  | .access (.remove key) => items.contains key
  | .access (.get _) | .access .snapshot | .load _ | .restore => false

/-- The items that are to be held afterwards. -/
def change (items : Table Text Text) : Use → Table Text Text
  | .access asked => asked.change items
  | .load _ | .restore => items

def Fits (use : Use) (store : Store) : Prop := use.writes store.items = true → store.Takes (use.change store.items)

theorem distinct_change {items : Table Text Text} (distinct : items.Distinct) (use : Use) :
    (use.change items).Distinct := by
  cases use with
  | access asked => exact asked.distinct_change distinct
  | load | restore => exact distinct

end Use

namespace Stage

open Effect

variable {stage : Stage}

/-- What a use leaves: a store in which it was to write holds the items, or is as an attempt leaves it when that
failed, and a store from which it was only to read is the same. -/
def Leaves (stage : Stage) (writes : Bool) (items : Table Text Text) (effect : Effect Unit) : Prop :=
  effect.Ends stage
    (fun _ after => if writes then stage.store.replace items = .ok after.store else after.store = stage.store)
    (fun after => stage.store.Abandoned items after.store ∧ (writes = false → after.store = stage.store))

theorem leaves_of_rests {effect : Effect Unit} (rests : effect.Keeps (Rests stage)) (items : Table Text Text) :
    stage.Leaves false items effect := by
  have same := (rests stage (Rests.refl stage)).store
  unfold Leaves Ends
  split
  · next performed =>
    rw [performed] at same
    exact same
  · next after performed =>
    rw [performed] at same
    dsimp only at same
    exact ⟨.inl (same ▸ .refl stage.store), fun _ => same⟩

theorem leaves_setItem (key value : Text) :
    stage.Leaves true (stage.store.items.put key value) (setItem key value) :=
  (ends_written _ key value).mono_fails fun _ abandoned => ⟨abandoned, nofun⟩

theorem leaves_clear : stage.Leaves true [] clear := ends_cleared.mono_fails fun _ intact => ⟨.inl intact, nofun⟩

theorem leaves_removeItem (key : Text) :
    stage.Leaves (stage.store.items.contains key) (stage.store.items.erase key) (removeItem key) := by
  have failed (after : Stage) (same : after.store = stage.store) :
      stage.store.Abandoned (stage.store.items.erase key) after.store ∧
        (stage.store.items.contains key = false → after.store = stage.store) :=
    ⟨.inl (same ▸ .refl stage.store), fun _ => same⟩
  apply (ends_call failed rfl _).bind
  intro _ called same
  apply (ends_items failed same).bind
  rintro _ read ⟨rfl, same⟩
  cases stage.store.items.contains key with
  | true => exact (ends_replaced same _).mono_fails fun _ abandoned => ⟨abandoned, nofun⟩
  | false => exact same

theorem Leaves.done {writes : Bool} {items : Table Text Text} {effect : Effect Unit}
    (leaves : stage.Leaves writes items effect) :
    stage.Leaves writes items ((effect >>= fun _ => pure Reply.done) >>= fun _ => pure ()) := by
  simp only [bind_assoc, pure_bind]
  apply leaves.bind
  exact fun _ _ left => left

theorem leaves_use (use : Use) :
    stage.Leaves (use.writes stage.store.items) (use.change stage.store.items) use.effect := by
  cases use with
  | access asked =>
    cases asked with
    | get key =>
      apply leaves_of_rests
      exact ((rests_getItem key).bind fun _ => keeps_pure _).bind fun _ => keeps_pure ()
    | snapshot =>
      apply leaves_of_rests
      exact (rests_items.bind fun _ => keeps_pure _).bind fun _ => keeps_pure ()
    | set key value => exact (leaves_setItem key value).done
    | remove key => exact (leaves_removeItem key).done
    | clear => exact leaves_clear.done
  | load key =>
    apply leaves_of_rests
    exact (rests_load key).bind fun _ => keeps_pure ()
  | restore => exact leaves_of_rests rests_restore _

variable {path : Path} {use : Use}

/-! ## One use -/

theorem store_of_reads (reads : use.writes stage.store.items = false) :
    (use.effect.perform stage).2.store = stage.store := by
  have leaves := stage.leaves_use use
  rw [reads] at leaves
  unfold Leaves Ends at leaves
  split at leaves
  · next performed => rw [performed]; exact leaves
  · next performed => rw [performed]; exact leaves.2 rfl

theorem abandoned_of_raises {fault : Fault} {after : Stage}
    (raises : use.effect.perform stage = (.error fault, after)) :
    stage.store.Abandoned (use.change stage.store.items) after.store := by
  have leaves := stage.leaves_use use
  unfold Leaves Ends at leaves
  rw [raises] at leaves
  exact leaves.1

theorem replace_of_returns {after : Stage} (writes : use.writes stage.store.items = true)
    (returns : use.effect.perform stage = (.ok (), after)) :
    stage.store.replace (use.change stage.store.items) = .ok after.store := by
  have leaves := stage.leaves_use use
  unfold Leaves Ends at leaves
  rw [returns, writes] at leaves
  exact leaves

theorem raises_of_unreadable {fault : Fault} (unreadable : stage.store.contents = .error fault) (key value : Text) :
    ∃ raised after, (Use.access (.set key value)).effect.perform stage = (.error raised, after) ∧
      after.store = stage.store := by
  simp only [Use.effect, Access.issue, bind_assoc, pure_bind]
  cases refused : stage.refusal stage.calls (.setItem key value) with
  | some raised =>
    have raises : (setItem key value).perform stage = (.error raised, stage.called (.setItem key value)) :=
      perform_bind_of_error (perform_call_refused refused) _
    exact ⟨raised, _, perform_bind_of_error raises _, rfl⟩
  | none =>
    have read : items.perform (stage.called (.setItem key value)) =
        (.error fault, (stage.called (.setItem key value)).noted) := by
      rw [perform_items, store_called, unreadable]
      rfl
    have raises : (setItem key value).perform stage = (.error fault, (stage.called (.setItem key value)).noted) := by
      rw [setItem, perform_bind_of_ok (perform_call refused), perform_bind_of_error read]
    exact ⟨fault, _, perform_bind_of_error raises _, rfl⟩

theorem octets?_of_raises {fault : Fault} {after : Stage} (raises : use.effect.perform stage = (.error fault, after)) :
    after.store.octets? = stage.store.octets? ∨ ¬ use.Fits stage.store ∧ after.store.octets? = some .empty := by
  cases writes : use.writes stage.store.items with
  | false =>
    have same := store_of_reads writes
    rw [raises] at same
    exact .inl (congrArg Store.octets? same)
  | true =>
    rcases abandoned_of_raises raises with intact | ⟨unfit, emptied, _⟩
    · exact .inl intact.octets?
    · exact .inr ⟨fun fits => unfit (fits writes), emptied⟩

theorem store_use_cases (use : Use) (stage : Stage) :
    let after := (use.effect.perform stage).2
    stage.store.Intact after.store ∨ stage.store.replace (use.change stage.store.items) = .ok after.store ∨
      ¬ use.Fits stage.store ∧ after.store.octets? = some .empty ∧ after.store.path? = stage.store.path? := by
  cases writes : use.writes stage.store.items with
  | false => exact .inl (store_of_reads writes ▸ .refl stage.store)
  | true =>
    rcases performed : use.effect.perform stage with ⟨result, after⟩
    cases result with
    | ok _ => exact .inr (.inl (replace_of_returns writes performed))
    | error fault =>
      rcases abandoned_of_raises performed with intact | ⟨unfit, emptied⟩
      · exact .inl intact
      · exact .inr (.inr ⟨fun fits => unfit (fits writes), emptied⟩)

theorem path?_use (place : stage.store.path? = some path) (use : Use) :
    (use.effect.perform stage).2.store.path? = some path := by
  have distinct := use.distinct_change (Store.distinct_items_of_path? place)
  rcases store_use_cases use stage with intact | replaced | emptied
  · exact intact.path?.trans place
  · exact (Store.holds_of_replace distinct replaced).2.trans place
  · exact emptied.2.2.trans place

theorem canonical_use (place : stage.store.path? = some path) (canonical : stage.store.Canonical)
    (fits : use.Fits stage.store) : (use.effect.perform stage).2.store.Canonical := by
  have distinct := use.distinct_change (Store.distinct_items_of_path? place)
  rcases store_use_cases use stage with intact | replaced | emptied
  · exact intact.canonical canonical
  · exact (Store.canonical_of_replace place distinct replaced).1
  · exact absurd fits emptied.1

theorem octets?_set_again (canonical : stage.store.Canonical) {key value : Text}
    (held : stage.store.items.get? key = some value) :
    ((Use.access (.set key value)).effect.perform stage).2.store.octets? = stage.store.octets? := by
  have same : (Use.access (.set key value)).change stage.store.items = stage.store.items := Table.put_get? _ _ _ held
  have fits : (Use.access (.set key value)).Fits stage.store := by
    intro _
    rw [same]
    exact canonical.takes
  rcases store_use_cases (.access (.set key value)) stage with intact | replaced | ⟨unfit, _⟩
  · exact intact.octets?
  · rw [same, canonical.replace] at replaced
    rw [← Except.ok.inj replaced]
  · exact absurd fits unfit

end Stage

/-! ## Histories -/

namespace Use

def leave (uses : List Use) (stage : Stage) : Stage :=
  uses.foldl (fun stage use => (use.effect.perform stage).2) stage

def Fitting : List Use → Stage → Prop
  | [], _ => True
  | use :: rest, stage => use.Fits stage.store ∧ Fitting rest (use.effect.perform stage).2

/-- One of the uses was to write something, and returned, and from then on all of them fit. -/
def Wrote (uses : List Use) (stage : Stage) : Prop :=
  ∃ before use later after, uses = before ++ use :: later ∧
    use.writes (leave before stage).store.items = true ∧
    use.effect.perform (leave before stage) = (.ok (), after) ∧ Fitting later after

variable {stage : Stage} {path : Path}

theorem path?_leave (place : stage.store.path? = some path) (uses : List Use) :
    (leave uses stage).store.path? = some path := by
  induction uses generalizing stage with
  | nil => exact place
  | cons use rest ih => exact ih (Stage.path?_use place use)

theorem canonical_leave (place : stage.store.path? = some path) (canonical : stage.store.Canonical)
    {uses : List Use} (fits : Fitting uses stage) : (leave uses stage).store.Canonical := by
  induction uses generalizing stage with
  | nil => exact canonical
  | cons use rest ih => exact ih (Stage.path?_use place use) (Stage.canonical_use place canonical fits.1) fits.2

/-- From the first writing on, the file has its one text. -/
theorem Wrote.canonical {uses : List Use} (wrote : Wrote uses stage) (place : stage.store.path? = some path) :
    (leave uses stage).store.Canonical := by
  obtain ⟨before, use, later, after, rfl, writes, returns, fits⟩ := wrote
  have there := path?_leave place before
  have distinct := use.distinct_change (Store.distinct_items_of_path? there)
  have written := Store.canonical_of_replace there distinct (Stage.replace_of_returns writes returns)
  have still := Stage.path?_use there use
  rw [returns] at still
  have resumed : leave (before ++ use :: later) stage = leave later after := by
    rw [leave, List.foldl_append, List.foldl_cons]
    exact congrArg (fun performed : Except Fault Unit × Stage => leave later performed.2) returns
  rw [resumed]
  exact canonical_leave still written.1 fits

end Use

/-- A file changes only when something is written to it, and then it has the one text of its items. Whatever it held,
what only reads leaves it alone. So does what raises a fault, unless it was to write a half: then the file is empty. -/
theorem Stage.file_canonical {stage : Stage} {path : Path} (place : stage.store.path? = some path) :
    (∀ use : Use, use.writes stage.store.items = false → (use.effect.perform stage).2.store = stage.store) ∧
    (∀ (use : Use) (fault : Fault) (after : Stage), use.effect.perform stage = (.error fault, after) →
      after.store.octets? = stage.store.octets? ∨
        ¬ use.Fits stage.store ∧ after.store.octets? = some .empty) ∧
    (∀ (fault : Fault) (key value : Text), stage.store.contents = .error fault →
      ∃ raised after, (Use.access (.set key value)).effect.perform stage = (.error raised, after) ∧
        after.store = stage.store) ∧
    (∀ (use : Use) (after : Stage), use.writes stage.store.items = true →
      use.effect.perform stage = (.ok (), after) →
      after.store.items = use.change stage.store.items ∧ after.store.Written (use.change stage.store.items)) ∧
    ∀ uses : List Use, Use.Wrote uses stage →
      let last := Use.leave uses stage
      last.store.Written last.store.items ∧
      (∀ key value : Text, last.store.items.get? key = some value →
        ((Use.access (.set key value)).effect.perform last).2.store.octets? = last.store.octets?) ∧
      ∀ (other : Stage) (elsewhere : Path) (others : List Use), other.store.path? = some elsewhere →
        Use.Wrote others other → (Use.leave others other).store.items = last.store.items →
        (Use.leave others other).store.octets? = last.store.octets? := by
  refine ⟨fun _ reads => store_of_reads reads, fun _ _ _ raises => octets?_of_raises raises,
    fun _ key value unreadable => raises_of_unreadable unreadable key value, fun use after writes returns => ?_,
    fun uses wrote => ?_⟩
  · have distinct := use.distinct_change (Store.distinct_items_of_path? place)
    obtain ⟨canonical, items⟩ :=
      Store.canonical_of_replace place distinct (replace_of_returns writes returns)
    exact ⟨items, items ▸ canonical⟩
  · have canonical := wrote.canonical place
    refine ⟨canonical, fun _ _ held => octets?_set_again canonical held, ?_⟩
    intro other elsewhere others there wroteToo same
    obtain ⟨octets, encoded, held⟩ := canonical
    obtain ⟨others, encodedToo, heldToo⟩ := wroteToo.canonical there
    rw [same, encoded] at encodedToo
    rw [heldToo, held, Except.ok.inj encodedToo]

/-- The name "b" has a number in the file, which is no item: to remove it leaves the file alone, and to set it drops
the number. -/
theorem Stage.file_canonical_mixed :
    ∃ stage after : Stage, stage.store.path? = some mixedPlace ∧
      stage.store.octets? = some mixedText.toUTF8 ∧
      ((Use.access (.remove "b")).effect.perform stage).2.store = stage.store ∧
      (Use.access (.set "b" "\n")).effect.perform stage = (.ok (), after) ∧
      after.store.Written [("a", "3"), ("b", "\n")] := by
  have items : Store.items (.file mixedPlace mixedTree) = [(("a" : Text), ("3" : Text))] :=
    (Contents.ofOctets_items read_mixedText).symm
  have fits : Access.Fits (.file mixedPlace mixedTree) (Store.items (.file mixedPlace mixedTree)) (.set "b" "\n") := by
    rw [items]
    exact Store.takes_file.mpr (by decide +kernel)
  obtain ⟨after, answered⟩ := Access.answered ready_mixed fits
  have returns : (Use.access (.set "b" "\n")).effect.perform { store := .file mixedPlace mixedTree } =
      (.ok (), after) := Effect.perform_bind_of_ok answered.answer _
  obtain ⟨reads, _, _, written, _⟩ :=
    @file_canonical { store := .file mixedPlace mixedTree } mixedPlace rfl
  refine ⟨_, after, rfl, rfl, reads (.access (.remove "b")) ?_, returns, ?_⟩
  · rw [Use.writes, items]
    rfl
  · have text := (written _ after rfl returns).2
    rw [items] at text
    exact text

end Pushbutton
