import Pushbutton.Proofs.Store.Contents

/-! What an attempt to write leaves when it fails: directories may have been made on the way to the file, but
every file is as it was, and where there was none there is still none. -/

set_option autoImplicit false

namespace Pushbutton

def Lookup.Reached : Lookup → Prop
  | .file _ _ | .directory | .free _ => True
  | .noEntry | .notDirectory => False

namespace FileTree

/-! ## Along a path -/

/-- A path is followed further only from a directory. -/
theorem walk_front {tree : FileTree} {start front back : List String} {part : String}
    (reached : (tree.walk start (front ++ part :: back)).Reached) : tree.walk start front = .directory := by
  induction front generalizing start with
  | nil => rw [walk]
  | cons first front ih =>
    rw [List.cons_append, walk] at reached
    rw [walk]
    split at reached
    · next up => rw [if_pos up]; exact ih reached
    · next down =>
      rw [if_neg down]
      dsimp only at reached ⊢
      have more : (front ++ part :: back).isEmpty = false := by simp
      rw [more] at reached
      split at reached
      · exact ih reached
      · exact reached.elim
      · exact reached.elim

theorem find_parent {tree : FileTree} {path : Path} (some : path.parts ≠ [])
    (reached : (tree.find path).Reached) : tree.find path.parent = .directory := by
  rw [find, ← List.dropLast_concat_getLast some] at reached
  exact walk_front reached

theorem parts_ne_nil {tree : FileTree} {path : Path} (other : tree.find path ≠ .directory) :
    path.parts ≠ [] := by
  intro none
  rw [find, none, walk] at other
  exact other rfl

theorem get?_of_walk_free {tree : FileTree} {start parts location : List String}
    (free : tree.walk start parts = .free location) : Table.get? tree (key location) = none := by
  induction parts generalizing start with
  | nil => cases free
  | cons part rest ih =>
    rw [walk] at free
    split at free
    · exact ih free
    · dsimp only at free
      split at free
      · exact ih free
      · split at free <;> cases free
      · next absent =>
        split at free
        · cases free
          exact absent
        · cases free

/-! ## Directories on the way -/

/-- Nothing but directories was added, where nothing was before. -/
def Widened (tree wider : FileTree) : Prop :=
  ∃ made : FileTree, wider = tree ++ made ∧ ∀ node ∈ made, node.2 = .directory

theorem Widened.refl (tree : FileTree) : tree.Widened tree := ⟨[], (List.append_nil tree).symm, nofun⟩

theorem Widened.trans {tree wider widest : FileTree} (first : tree.Widened wider)
    (second : wider.Widened widest) : tree.Widened widest := by
  obtain ⟨made, rfl, directories⟩ := first
  obtain ⟨later, rfl, others⟩ := second
  refine ⟨made ++ later, List.append_assoc .., fun node member => ?_⟩
  rcases List.mem_append.mp member with here | there
  · exact directories node here
  · exact others node there

theorem widened_of_free {tree : FileTree} {path : Path} {location : List String}
    (free : tree.find path = .free location) :
    tree.Widened (Table.put tree (key location) .directory) := by
  have absent := get?_of_walk_free free
  rw [Table.get?_eq_none_iff] at absent
  rw [Table.put_of_not_mem _ _ _ absent]
  exact ⟨[(key location, .directory)], rfl, fun node member => by cases List.mem_singleton.mp member; rfl⟩

theorem widened_makeDirectory {tree wider : FileTree} {start : PathStart} {levels : Nat} {parts : List String}
    (made : tree.makeDirectory start levels parts = .ok wider) : tree.Widened wider := by
  induction levels generalizing wider parts with
  | zero =>
    simp only [makeDirectory] at made
    split at made
    · cases made; exact .refl tree
    · cases made
    · cases made
    · next location free => cases made; exact widened_of_free free
    · cases made
  | succ levels ih =>
    simp only [makeDirectory, bind, Except.bind] at made
    split at made
    · cases made; exact .refl tree
    · cases made
    · cases made
    · next location free => cases made; exact widened_of_free free
    · split at made
      · cases made
      · next above madeAbove =>
        have widened := ih madeAbove
        split at made
        · cases made; exact widened
        · next location free => cases made; exact widened.trans (widened_of_free free)
        all_goals cases made

/-- The directory is made, or one above it is prepared because that is missing too, or nothing is done. -/
theorem prepared_cases (tree : FileTree) (start : PathStart) (levels : Nat) (parts : List String) :
    (∃ wider, tree.makeDirectory start levels parts = .ok wider ∧ tree.prepared start levels parts = wider) ∨
    ∃ fault, tree.makeDirectory start levels parts = .error fault ∧
      (tree.prepared start levels parts = tree ∨
        ∃ lower, levels = lower + 1 ∧ tree.find ⟨start, parts⟩ = .noEntry ∧
          tree.prepared start levels parts = tree.prepared start lower parts.dropLast) := by
  rw [prepared.eq_def]
  dsimp only
  cases made : tree.makeDirectory start levels parts with
  | ok wider => exact .inl ⟨wider, rfl, rfl⟩
  | error fault =>
    refine .inr ⟨fault, rfl, ?_⟩
    dsimp only
    split
    · next lower missing => exact .inr ⟨lower, rfl, missing, rfl⟩
    · exact .inl rfl

theorem widened_prepared (tree : FileTree) (start : PathStart) (levels : Nat) (parts : List String) :
    tree.Widened (tree.prepared start levels parts) := by
  induction levels using Nat.strong_induction_on generalizing parts with
  | _ levels ih =>
    rcases tree.prepared_cases start levels parts with
      ⟨wider, made, same⟩ | ⟨fault, _, same | ⟨lower, fewer, _, same⟩⟩
    · rw [same]
      exact widened_makeDirectory made
    · rw [same]
      exact .refl tree
    · rw [same]
      exact ih lower (by omega) parts.dropLast

/-- A directory that cannot be made is not there afterwards either, though some above it may be. -/
theorem find_prepared {tree : FileTree} {start : PathStart} {levels : Nat} {parts : List String}
    {fault : FileFault} (failed : tree.makeDirectory start levels parts = .error fault) :
    (tree.prepared start levels parts).find ⟨start, parts⟩ ≠ .directory := by
  induction levels using Nat.strong_induction_on generalizing parts fault with
  | _ levels ih =>
    intro there
    rcases tree.prepared_cases start levels parts with
      ⟨wider, made, _⟩ | ⟨_, _, same | ⟨lower, rfl, missing, same⟩⟩
    · cases failed.symm.trans made
    · rw [same] at there
      have made := makeDirectory_of_directory levels there
      cases failed.symm.trans made
    · rw [same] at there
      have some : (⟨start, parts⟩ : Path).parts ≠ [] := parts_ne_nil (by rw [missing]; nofun)
      rcases tree.prepared_cases start lower parts.dropLast with ⟨wider, made, prepared⟩ | ⟨_, above, _⟩
      · -- the directory was there to be made once the one above it was
        rw [prepared] at there
        rw [makeDirectory] at failed
        simp only [missing, made, there, bind, Except.bind] at failed
        cases failed
      · have upward := find_parent some (by rw [there]; trivial)
        exact ih lower (by omega) above upward

/-! ## The file itself -/

def fileAt? (tree : FileTree) (path : Path) : Option ByteArray :=
  match tree.find path with
  | .file _ content => some content
  | .directory | .free _ | .noEntry | .notDirectory => none

theorem fileAt?_of_content? {tree : FileTree} {path : Path} {content : ByteArray}
    (held : tree.content? path = .ok (some content)) : tree.fileAt? path = some content := by
  unfold content? at held
  split at held
  · next found =>
    cases held
    rw [fileAt?, found]
  all_goals cases held

theorem find_of_fileAt? {tree : FileTree} {path : Path} {content : ByteArray}
    (found : tree.fileAt? path = some content) : ∃ location, tree.find path = .file location content := by
  unfold fileAt? at found
  split at found <;> cases found
  next location leads => exact ⟨location, leads⟩

theorem find_parent_of_fileAt? {tree : FileTree} {path : Path} {content : ByteArray}
    (found : tree.fileAt? path = some content) : tree.find path.parent = .directory := by
  obtain ⟨location, leads⟩ := find_of_fileAt? found
  have some : path.parts ≠ [] := parts_ne_nil (by rw [leads]; nofun)
  exact find_parent some (by rw [leads]; trivial)

theorem writeFile_of_fileAt? {tree : FileTree} {path : Path} {content : ByteArray}
    (found : tree.fileAt? path = some content) (other : ByteArray) :
    ∃ changed, tree.writeFile path other = .ok changed := by
  obtain ⟨location, leads⟩ := find_of_fileAt? found
  exact ⟨_, writeFile_of_location (by rw [leads]; rfl) other⟩

theorem creatable_of_fileAt? {tree : FileTree} {path : Path} {content : ByteArray}
    (found : tree.fileAt? path = some content) : tree.Creatable path := by
  obtain ⟨changed, written⟩ := writeFile_of_fileAt? found content
  refine ⟨content, changed, ?_⟩
  simp only [save, makeDirectory_of_directory _ (find_parent_of_fileAt? found), bind, Except.bind]
  exact written

/-- Where a file is, one can be written. So where that fails there is none, neither before nor afterwards. -/
theorem fileAt?_of_save_error {tree : FileTree} {path : Path} {content : ByteArray} {fault : FileFault}
    (failed : tree.save path content = .error fault) :
    tree.fileAt? path = none ∧
      fileAt? (tree.prepared path.parent.start path.parent.parts.length path.parent.parts) path = none := by
  constructor
  · by_contra held
    obtain ⟨old, found⟩ := Option.ne_none_iff_exists'.mp held
    obtain ⟨changed, saved⟩ := (creatable_of_fileAt? found).save content
    cases failed.symm.trans saved
  · by_contra held
    obtain ⟨old, found⟩ := Option.ne_none_iff_exists'.mp held
    rcases tree.prepared_cases path.parent.start path.parent.parts.length path.parent.parts with
      ⟨wider, made, same⟩ | ⟨_, unmade, _⟩
    · rw [same] at found
      obtain ⟨changed, written⟩ := writeFile_of_fileAt? found content
      simp only [save, made, bind, Except.bind] at failed
      cases failed.symm.trans written
    · exact find_prepared unmade (find_parent_of_fileAt? found)

end FileTree

/-- A store whose items are those from before: for a file it is the same content or still none, and only
directories may have come to be. -/
inductive Store.Intact : Store → Store → Prop
  | memory (items : Table Text Text) : Intact (.memory items) (.memory items)
  | file {path : Path} {tree wider : FileTree} (widened : tree.Widened wider)
      (same : wider.fileAt? path = tree.fileAt? path) : Intact (.file path tree) (.file path wider)

theorem Store.Intact.refl (store : Store) : store.Intact store := by
  cases store with
  | memory items => exact .memory items
  | file path tree => exact .file (.refl tree) rfl

theorem Store.Intact.of_file {path : Path} {tree : FileTree} {after : Store}
    (intact : Store.Intact (.file path tree) after) :
    Store.Intact (.file path tree) (.file path after.tree) := by
  cases intact with
  | file widened same => exact .file widened same

/-- A directory in the place of the file has no items, as an absent file has none. -/
theorem Store.items_file (path : Path) (tree : FileTree) :
    Store.items (.file path tree) = itemsOfFile (tree.fileAt? path) := by
  simp only [Store.items, FileTree.content?, FileTree.fileAt?]
  cases tree.find path <;> rfl

theorem Store.Intact.items {before after : Store} (intact : before.Intact after) : after.items = before.items := by
  cases intact with
  | memory items => rfl
  | file widened same => rw [items_file, items_file, same]

def Store.octets? : Store → Option ByteArray
  | .memory _ => none
  | .file path tree => tree.fileAt? path

theorem Store.Intact.octets? {before after : Store} (intact : before.Intact after) :
    after.octets? = before.octets? := by
  cases intact with
  | memory items => rfl
  | file widened same => exact same

theorem Store.Intact.path? {before after : Store} (intact : before.Intact after) : after.path? = before.path? := by
  cases intact <;> rfl

/-- What a failing attempt to write the items leaves: the others, or an empty file when one of the texts has no
octets. -/
def Store.Abandoned (store : Store) (items : Table Text Text) (after : Store) : Prop :=
  store.Intact after ∨ ¬ store.Takes items ∧ after.octets? = some .empty ∧ after.path? = store.path?

theorem Store.Abandoned.intact {store after : Store} {items : Table Text Text} (abandoned : store.Abandoned items after)
    (takes : store.Takes items) : store.Intact after :=
  abandoned.resolve_right fun unfit => unfit.1 takes

theorem FileTree.save_error {tree : FileTree} {path : Path} {content : ByteArray} {fault : FileFault}
    (failed : tree.save path content = .error fault) (other : ByteArray) :
    ∃ another, tree.save path other = .error another := by
  cases saved : tree.save path other with
  | error another => exact ⟨another, rfl⟩
  | ok changed =>
    obtain ⟨written, saved⟩ := Creatable.save ⟨other, changed, saved⟩ content
    cases failed.symm.trans saved

theorem Store.abandoned_cases {store : Store} {items : Table Text Text} {fault : Fault}
    (failed : store.replace items = .error fault) :
    store.Intact store.abandoned ∨ fault.Unencodable ∧ ¬ store.Takes items ∧
      store.abandoned.octets? = some .empty ∧ store.abandoned.path? = store.path? := by
  cases store with
  | memory held => cases failed
  | file path tree =>
    have left {content : ByteArray} {unsaved : FileFault} (failed : tree.save path content = .error unsaved) :
        Store.Intact (.file path tree) (Store.abandoned (.file path tree)) := by
      obtain ⟨another, unsaved⟩ := FileTree.save_error failed .empty
      obtain ⟨before, after⟩ := FileTree.fileAt?_of_save_error unsaved
      simp only [abandoned, unsaved]
      exact .file (FileTree.widened_prepared ..) (after.trans before.symm)
    simp only [replace] at failed
    split at failed
    · next octets encoded =>
      split at failed
      · cases failed
      · next unsaved => exact .inl (left unsaved)
    · next unencodable encoded =>
      split at failed
      · next written saved =>
        cases failed
        refine .inr ⟨⟨_, rfl⟩, fun takes => ?_, ?_, ?_⟩
        · obtain ⟨text, same⟩ := Text.whole_iff_exists_ofString.mp (takes_file.mp takes)
          rw [same, Text.encode_ofString] at encoded
          cases encoded
        · simp only [abandoned, saved]
          exact FileTree.fileAt?_of_content? (FileTree.content?_save saved)
        · simp only [abandoned, saved]
          rfl
      · next unsaved => exact .inl (left unsaved)

theorem Store.abandoned_of_replace {store : Store} {items : Table Text Text} {fault : Fault}
    (failed : store.replace items = .error fault) : store.Abandoned items store.abandoned :=
  (Store.abandoned_cases failed).imp_right And.right

end Pushbutton
