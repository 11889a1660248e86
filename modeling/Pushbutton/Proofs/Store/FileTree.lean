import Pushbutton.Proofs.Table
import Pushbutton.Store.FileTree

/-! Saving a file: afterwards it has the content that was saved, and it can be saved again. -/

set_option autoImplicit false

namespace Pushbutton

def Lookup.location? : Lookup → Option (List String)
  | .file location _ | .free location => some location
  | .directory | .noEntry | .notDirectory => none

namespace FileTree

theorem walk_put_of_directory {tree : FileTree} {start parts : List String} {name : String} (node : FileNode)
    (leads : tree.walk start parts = .directory) (other : Table.get? tree name ≠ some .directory) :
    walk (Table.put tree name node) start parts = .directory := by
  induction parts generalizing start with
  | nil => rw [walk]
  | cons part rest ih =>
    rw [walk] at leads ⊢
    split at leads
    · next up => rw [if_pos up]; exact ih leads
    · next down =>
      rw [if_neg down]
      simp only at leads ⊢
      split at leads
      · next found =>
        -- the directory that was followed here is not the place that changes
        have apart : name ≠ key (start ++ [part]) := fun same => other (same ▸ found)
        rw [Table.get?_put, if_neg apart, found]
        exact ih leads
      · split at leads <;> cases leads
      · split at leads <;> cases leads

theorem walk_put_location {tree : FileTree} {start parts location : List String}
    (ends : (tree.walk start parts).location? = some location) :
    Table.get? tree (key location) ≠ some .directory ∧
    walk (Table.put tree (key location) .directory) start parts = .directory ∧
    ∀ content,
      walk (Table.put tree (key location) (.file content)) start parts = .file location content := by
  -- induction along the walk: what is put shows at its last part, and no earlier part is that place
  induction parts generalizing start with
  | nil => cases ends
  | cons part rest ih =>
    simp only [walk] at ends ⊢
    split at ends
    · next up =>
      simp only [if_pos up]
      exact ih ends
    · next down =>
      simp only [if_neg down]
      split at ends
      · next found =>
        obtain ⟨other, directory, file⟩ := ih ends
        have apart : key location ≠ key (start ++ [part]) := fun same => other (same ▸ found)
        simp only [Table.get?_put, if_neg apart, found]
        exact ⟨other, directory, file⟩
      · next content found =>
        split at ends
        · next last =>
          cases ends
          simp [Table.get?_put, found, List.isEmpty_iff.mp last, walk]
        · cases ends
      · next found =>
        split at ends
        · next last =>
          cases ends
          simp [Table.get?_put, found, List.isEmpty_iff.mp last, walk]
        · cases ends

theorem find_put_free {tree : FileTree} {path : Path} {location : List String}
    (ends : tree.find path = .free location) :
    find (Table.put tree (key location) .directory) path = .directory :=
  (walk_put_location (by rw [find] at ends; rw [ends]; rfl)).2.1

theorem find_makeDirectory {tree changed : FileTree} {start : PathStart} {levels : Nat} {parts : List String}
    (made : tree.makeDirectory start levels parts = .ok changed) :
    changed.find ⟨start, parts⟩ = .directory := by
  cases levels with
  | zero =>
    simp only [makeDirectory] at made
    split at made
    · next there => cases made; exact there
    · cases made
    · cases made
    · next location free => cases made; exact find_put_free free
    · cases made
  | succ levels =>
    simp only [makeDirectory, bind, Except.bind] at made
    split at made
    · next there => cases made; exact there
    · cases made
    · cases made
    · next location free => cases made; exact find_put_free free
    · split at made
      · cases made
      · split at made
        · next there => cases made; exact there
        · next location free => cases made; exact find_put_free free
        all_goals cases made

theorem makeDirectory_of_directory {tree : FileTree} {path : Path} (levels : Nat)
    (there : tree.find path = .directory) : tree.makeDirectory path.start levels path.parts = .ok tree := by
  rw [makeDirectory.eq_def]
  simp only [there]

theorem writeFile_of_location {tree : FileTree} {path : Path} {location : List String}
    (ends : (tree.find path).location? = some location) (content : ByteArray) :
    tree.writeFile path content = .ok (Table.put tree (key location) (.file content)) := by
  unfold writeFile
  cases found : tree.find path <;> rw [found] at ends <;> cases ends <;> rfl

theorem location_of_writeFile {tree changed : FileTree} {path : Path} {content : ByteArray}
    (written : tree.writeFile path content = .ok changed) :
    ∃ location, (tree.find path).location? = some location ∧
      changed = Table.put tree (key location) (.file content) := by
  unfold writeFile at written
  split at written
  · next location _ found => cases written; exact ⟨location, by rw [found]; rfl, rfl⟩
  · next location found => cases written; exact ⟨location, by rw [found]; rfl, rfl⟩
  all_goals cases written

/-- The directory of a path is there, and the path ends at a file or at a free name. -/
structure Open (tree : FileTree) (path : Path) (location : List String) : Prop where
  parent : tree.find path.parent = .directory
  ends : (tree.find path).location? = some location

theorem Open.save {tree : FileTree} {path : Path} {location : List String} (ready : tree.Open path location)
    (content : ByteArray) :
    tree.save path content = .ok (Table.put tree (key location) (.file content)) := by
  simp only [FileTree.save, makeDirectory_of_directory _ ready.parent, bind, Except.bind]
  exact writeFile_of_location ready.ends content

theorem Open.put {tree : FileTree} {path : Path} {location : List String} (ready : tree.Open path location)
    (content : ByteArray) :
    find (Table.put tree (key location) (.file content)) path = .file location content ∧
    Open (Table.put tree (key location) (.file content)) path location := by
  obtain ⟨other, _, file⟩ := walk_put_location ready.ends
  exact ⟨file content, walk_put_of_directory _ ready.parent other, by rw [find, file content]; rfl⟩

/-- In the other tree nothing is different but the file at the path. -/
structure Rewritten (path : Path) (location : List String) (tree other : FileTree) : Prop where
  ends : (tree.find path).location? = some location
  ready : other.Open path location
  beside : ∀ name, name ≠ key location → Table.get? other name = Table.get? tree name

theorem Rewritten.save {path : Path} {location : List String} {tree other : FileTree}
    (rewritten : Rewritten path location tree other) (content : ByteArray) :
    ∃ changed, other.save path content = .ok changed ∧ Rewritten path location tree changed := by
  refine ⟨_, rewritten.ready.save content, rewritten.ends, (rewritten.ready.put content).2, fun name apart => ?_⟩
  rw [Table.get?_put, if_neg (Ne.symm apart)]
  exact rewritten.beside name apart

theorem open_of_save {tree changed : FileTree} {path : Path} {content : ByteArray}
    (saved : tree.save path content = .ok changed) :
    ∃ (opened : FileTree) (location : List String), opened.Open path location ∧
      changed = Table.put opened (key location) (.file content) ∧
      ∀ other, tree.save path other = .ok (Table.put opened (key location) (.file other)) := by
  simp only [FileTree.save, bind, Except.bind] at saved
  split at saved
  · cases saved
  · next opened made =>
    obtain ⟨location, ends, same⟩ := location_of_writeFile saved
    refine ⟨opened, location, ⟨find_makeDirectory made, ends⟩, same, fun other => ?_⟩
    simp only [FileTree.save, made, bind, Except.bind]
    exact writeFile_of_location ends other

def Creatable (tree : FileTree) (path : Path) : Prop :=
  ∃ content changed, tree.save path content = .ok changed

theorem Creatable.save {tree : FileTree} {path : Path} (creatable : tree.Creatable path)
    (content : ByteArray) :
    ∃ changed, tree.save path content = .ok changed := by
  obtain ⟨_, _, saved⟩ := creatable
  obtain ⟨_, _, _, _, every⟩ := open_of_save saved
  exact ⟨_, every content⟩

theorem content?_save {tree changed : FileTree} {path : Path} {content : ByteArray}
    (saved : tree.save path content = .ok changed) : changed.content? path = .ok (some content) := by
  obtain ⟨opened, location, ready, rfl, _⟩ := open_of_save saved
  rw [content?, (ready.put content).1]

theorem save_save {tree changed : FileTree} {path : Path} {content : ByteArray}
    (saved : tree.save path content = .ok changed) : changed.save path content = .ok changed := by
  obtain ⟨opened, location, ready, rfl, _⟩ := open_of_save saved
  rw [(ready.put content).2.save content, Table.put_get?]
  rw [Table.get?_put, if_pos rfl]

theorem creatable_of_save {tree changed : FileTree} {path : Path} {content : ByteArray}
    (saved : tree.save path content = .ok changed) : changed.Creatable path :=
  ⟨content, changed, save_save saved⟩

end FileTree

end Pushbutton
