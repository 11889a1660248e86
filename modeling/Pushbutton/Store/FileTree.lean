import Pushbutton.Store.Path
import Pushbutton.Table
import Pushbutton.Text.Quoted

/-! Files and directories, and the few operations on them that a stored file needs. -/

set_option autoImplicit false

namespace Pushbutton

inductive FileNode where
  | file (content : ByteArray)
  | directory

/-- Nodes by their locations. The tops, which have no parts, are directories and not listed. -/
abbrev FileTree := Table String FileNode

inductive FileProblem where
  | noEntry
  | exists
  | notDirectory
  | isDirectory
  deriving DecidableEq, Repr

structure FileFault where
  problem : FileProblem
  path : Path
  deriving DecidableEq, Repr

def FileProblem.message : FileProblem → String
  | .noEntry => "[Errno 2] No such file or directory"
  | .exists => "[Errno 17] File exists"
  | .notDirectory => "[Errno 20] Not a directory"
  | .isDirectory => "[Errno 21] Is a directory"

def FileFault.message (fault : FileFault) : String :=
  fault.problem.message ++ ": " ++ Text.quoted fault.path.text

/-- Where a path ends: at a node, at a free name of a directory, or before its end. -/
inductive Lookup where
  | file (location : List String) (content : ByteArray)
  | directory
  | free (location : List String)
  | noEntry
  | notDirectory

namespace FileTree

def key (location : List String) : String := "/".intercalate location

/-- Above the working directory there are directories named by their way up. -/
def above : List String → List String
  | [] => [".."]
  | [""] => [""]
  | location => if location.getLast? == some ".." then location ++ [".."] else location.dropLast

def walk (tree : FileTree) : List String → List String → Lookup
  | _, [] => .directory
  | location, part :: rest =>
    if part = ".." then walk tree (above location) rest
    else
      let inner := location ++ [part]
      match Table.get? tree (key inner) with
      | some .directory => walk tree inner rest
      | some (.file content) => if rest.isEmpty then .file inner content else .notDirectory
      | none => if rest.isEmpty then .free inner else .noEntry

def top : PathStart → List String
  | .working => []
  | .root | .doubleRoot => [""]

def find (tree : FileTree) (path : Path) : Lookup := tree.walk (top path.start) path.parts

def content? (tree : FileTree) (path : Path) : Except FileFault (Option ByteArray) :=
  match tree.find path with
  | .file _ content => .ok (some content)
  | .directory => .error ⟨.isDirectory, path⟩
  | .free _ | .noEntry | .notDirectory => .ok none

/-- Makes a directory and those above it; `levels` bounds how many parts the path has. -/
def makeDirectory (tree : FileTree) (start : PathStart) : Nat → List String → Except FileFault FileTree
  | levels, parts =>
    let path : Path := ⟨start, parts⟩
    match tree.find path with
    | .directory => .ok tree
    | .file _ _ => .error ⟨.exists, path⟩
    | .notDirectory => .error ⟨.notDirectory, path⟩
    | .free location => .ok (Table.put tree (key location) .directory)
    | .noEntry =>
      match levels with
      | 0 => .error ⟨.noEntry, path⟩
      | levels + 1 => do
        -- the path is followed once more, since its parent is there now
        let tree ← makeDirectory tree start levels parts.dropLast
        match find tree path with
        | .directory => return tree
        | .free location => return Table.put tree (key location) .directory
        | .file _ _ => .error ⟨.exists, path⟩
        | .notDirectory => .error ⟨.notDirectory, path⟩
        | .noEntry => .error ⟨.noEntry, path⟩

/-- What is there once a directory was to be made: when it cannot be made, those above it that could be stay. -/
def prepared (tree : FileTree) (start : PathStart) : Nat → List String → FileTree
  | levels, parts =>
    match tree.makeDirectory start levels parts with
    | .ok tree => tree
    | .error _ =>
      match levels, tree.find ⟨start, parts⟩ with
      | levels + 1, .noEntry => prepared tree start levels parts.dropLast
      | _, _ => tree

def writeFile (tree : FileTree) (path : Path) (content : ByteArray) : Except FileFault FileTree :=
  match tree.find path with
  | .file location _ | .free location => .ok (Table.put tree (key location) (.file content))
  | .directory => .error ⟨.isDirectory, path⟩
  | .noEntry => .error ⟨.noEntry, path⟩
  | .notDirectory => .error ⟨.notDirectory, path⟩

def save (tree : FileTree) (path : Path) (content : ByteArray) : Except FileFault FileTree := do
  let parent := path.parent
  let tree ← tree.makeDirectory parent.start parent.parts.length parent.parts
  writeFile tree path content

def removeFile (tree : FileTree) (path : Path) : Except FileFault FileTree :=
  match tree.find path with
  | .file location _ => .ok (Table.erase tree (key location))
  | .directory => .error ⟨.isDirectory, path⟩
  | .free _ | .noEntry => .error ⟨.noEntry, path⟩
  | .notDirectory => .error ⟨.notDirectory, path⟩

def ofEntries (entries : List (String × Option ByteArray)) : FileTree :=
  entries.foldl (fun tree (text, content?) =>
    let path := Path.ofText text
    let made :=
      match content? with
      | some content => save tree path content
      | none => tree.makeDirectory path.start path.parts.length path.parts
    match made with
    | .ok tree => tree
    | .error _ => tree) []

def files (tree : FileTree) : List (String × ByteArray) :=
  tree.filterMap fun (location, node) =>
    match node with
    | .file content =>
      if Text.startsWith "/" location || (Text.parts '/' location).contains ".." then none
      else some (location, content)
    | .directory => none

end FileTree

end Pushbutton
