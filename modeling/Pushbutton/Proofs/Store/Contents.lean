import Pushbutton.Proofs.Json.RoundTrip
import Pushbutton.Proofs.Json.Whole
import Pushbutton.Proofs.Store.FileTree
import Pushbutton.Store.Basic

/-! What a store holds, seen from outside: a file stands for the texts among the members of its JSON object,
and a store that can be used holds just what was last written. -/

set_option autoImplicit false

namespace Pushbutton

def textMember : Text × Json → Option (Text × Text)
  | (name, .str text) => some (name, text)
  | _ => none

/-- The items of a file. One that is absent, or that holds anything but a JSON object, has none. -/
def itemsOfFile (content : Option ByteArray) : Table Text Text :=
  match (content.bind String.fromUTF8?).map fun text : String => Json.parse text with
  | some (.ok (.obj members)) => members.filterMap textMember
  | _ => []

namespace Store

def items : Store → Table Text Text
  | .memory items => items
  | .file path tree =>
    match tree.content? path with
    | .ok content => itemsOfFile content
    | .error _ => []

/-- The contents can be read, and the file can be written. A store in memory has no name twice. -/
def Usable : Store → Prop
  | .memory items => items.Distinct
  | .file path tree => (∃ contents, Store.contents (.file path tree) = .ok contents) ∧ tree.Creatable path

/-- Only a file needs octets for what it is to hold. -/
def Fits (store : Store) (text : Text) : Prop := store.path?.isSome → text.Whole

def Takes (store : Store) (items : Table Text Text) : Prop := ∀ entry ∈ items, store.Fits entry.1 ∧ store.Fits entry.2

end Store

def Fault.Unencodable (fault : Fault) : Prop := ∃ problem, fault = .unencodable problem

instance : DecidablePred Fault.Unencodable := fun fault =>
  match fault with
  | .unencodable problem => .isTrue ⟨problem, rfl⟩
  | .external _ _ | .file _ | .undecodable _ | .oversizedInteger _ | .oversizedDelay | .illegalTransition _ =>
    .isFalse fun ⟨_, same⟩ => nomatch same

theorem Contents.ofJson_items (value : Json) :
    (Contents.ofJson value).items =
      match value with
      | .obj members => members.filterMap textMember
      | _ => [] := by
  cases value with
  | obj members =>
    simp only [ofJson]
    congr 1
    funext ⟨name, value⟩
    cases value <;> rfl
  | _ => rfl

theorem Contents.ofOctets_items {octets : ByteArray} {contents : Contents}
    (read : Contents.ofOctets octets = .ok contents) : contents.items = itemsOfFile (some octets) := by
  simp only [ofOctets, Text.decodeUtf8, ofText] at read
  simp only [itemsOfFile, Option.bind_some]
  cases decoded : String.fromUTF8? octets with
  | none => rw [decoded] at read; cases read
  | some text =>
    simp only [decoded] at read
    rw [Option.map_some]
    split at read
    · next value parsed =>
      cases read
      rw [parsed, ofJson_items]
      cases value <;> rfl
    · next parsed => cases read; rw [parsed]
    · cases read

theorem Store.contents_items {store : Store} {contents : Contents} (read : store.contents = .ok contents) :
    contents.items = store.items := by
  cases store with
  | memory items => cases read; rfl
  | file path tree =>
    simp only [Store.contents, Store.items] at read ⊢
    split at read
    · next found => rw [found]; exact Contents.ofOctets_items read
    · next found => rw [found]; cases read; rfl
    · cases read

theorem Contents.ofOctets_fault {octets : ByteArray} {fault : Fault}
    (failed : Contents.ofOctets octets = .error fault) : itemsOfFile (some octets) = [] := by
  simp only [ofOctets, Text.decodeUtf8, ofText] at failed
  simp only [itemsOfFile, Option.bind_some]
  cases decoded : String.fromUTF8? octets with
  | none => rfl
  | some text =>
    simp only [decoded] at failed
    rw [Option.map_some]
    split at failed
    · cases failed
    · cases failed
    · next parsed => rw [parsed]

theorem Store.items_of_fault {store : Store} {fault : Fault} (failed : store.contents = .error fault) :
    store.items = [] := by
  cases store with
  | memory items => cases failed
  | file path tree =>
    simp only [Store.contents, Store.items] at failed ⊢
    split at failed
    · next found => rw [found]; exact Contents.ofOctets_fault failed
    · cases failed
    · next found => rw [found]

theorem names_textMembers (members : Table Text Json) :
    (Table.names (members.filterMap textMember)).Sublist members.names := by
  induction members with
  | nil => exact .slnil
  | cons member members ih =>
    obtain ⟨name, value⟩ := member
    cases value with
    | str text => exact ih.cons_cons name
    | _ => exact ih.cons name

theorem distinct_itemsOfFile (content : Option ByteArray) : (itemsOfFile content).Distinct := by
  unfold itemsOfFile
  split
  · next members found =>
    obtain ⟨text, _, parsed⟩ := Option.map_eq_some_iff.mp found
    exact (Json.distinct_of_parse parsed).sublist (names_textMembers members)
  · exact Table.distinct_nil

/-! ## Writing -/

theorem plain_itemsJson {items : Table Text Text} (distinct : items.Distinct) :
    (Json.obj (items.map fun (key, value) => (key, .str value))).Plain := by
  constructor
  · rw [Table.Distinct, Table.names, List.map_map]
    exact distinct
  · rw [Json.plainMembers_iff, List.forall_mem_map]
    exact fun _ _ => trivial

theorem whole_fileText {items : Table Text Text} :
    (fileText items).Whole ↔ ∀ entry ∈ items, entry.1.Whole ∧ entry.2.Whole := by
  rw [fileText, Text.whole_append, Json.whole_renderIndented, Json.AllTexts, Json.allMembers_iff,
    List.forall_mem_map]
  simp [Json.AllTexts]

theorem Contents.ofText_fileText {items : Table Text Text} (distinct : items.Distinct) :
    Contents.ofText (fileText items) = .ok ⟨items, false⟩ := by
  have back : (items.map fun (key, value) => (key, Json.str value)).filterMap textMember = items := by
    rw [List.filterMap_map]
    exact List.filterMap_some
  have read := Contents.ofJson_items (.obj (items.map fun (key, value) => (key, .str value)))
  simp only [back] at read
  rw [ofText, fileText, Json.parse_renderIndented (plain_itemsJson distinct)]
  simp only [ofJson] at read ⊢
  rw [read]

namespace Store

theorem Usable.contents {store : Store} (usable : store.Usable) :
    ∃ malformed, store.contents = .ok ⟨store.items, malformed⟩ := by
  cases store with
  | memory items => exact ⟨false, rfl⟩
  | file path tree =>
    obtain ⟨⟨contents, read⟩, _⟩ := usable
    exact ⟨contents.malformed, by rw [read, ← contents_items read]⟩

theorem distinct_items_file (path : Path) (tree : FileTree) : (Store.items (.file path tree)).Distinct := by
  simp only [Store.items]
  split
  · exact distinct_itemsOfFile _
  · exact Table.distinct_nil

theorem Usable.distinct {store : Store} (usable : store.Usable) : store.items.Distinct := by
  cases store with
  | memory items => exact usable
  | file path tree => exact distinct_items_file path tree

/-- The store was written: it holds the items, can be used, is where it was, and holds nothing else. -/
structure Holds (store : Store) (items : Table Text Text) : Prop where
  usable : store.Usable
  contents : store.contents = .ok ⟨items, false⟩
  again : store.replace items = .ok store

theorem Holds.items {store : Store} {items : Table Text Text} (holds : store.Holds items) :
    store.items = items := (contents_items holds.contents).symm

theorem replace_file_eq_ok_iff {path : Path} {tree : FileTree} {items : Table Text Text} {changed : Store} :
    Store.replace items (.file path tree) = .ok changed ↔
      ∃ text : String, fileText items = text ∧
        ∃ written, tree.save path text.toUTF8 = .ok written ∧ changed = .file path written := by
  simp only [Store.replace]
  constructor
  · intro replaced
    split at replaced
    · next octets encoded =>
      obtain ⟨text, same, rfl⟩ := Text.encode_eq_ok_iff.mp encoded
      split at replaced
      · next written saved =>
        cases replaced
        exact ⟨text, same, written, saved, rfl⟩
      · cases replaced
    · split at replaced <;> cases replaced
  · rintro ⟨text, same, written, saved, rfl⟩
    simp only [same, Text.encode_ofString, saved]

@[simp] theorem fits_memory {items : Table Text Text} {text : Text} : Store.Fits (.memory items) text := nofun

@[simp] theorem fits_file {path : Path} {tree : FileTree} {text : Text} :
    Store.Fits (.file path tree) text ↔ text.Whole :=
  forall_prop_of_true rfl

@[simp] theorem fits_ofString (store : Store) (text : String) : store.Fits text := fun _ => Text.whole_ofString text

theorem Fits.append {store : Store} {before after : Text} (first : store.Fits before) (second : store.Fits after) :
    store.Fits (before ++ after) := fun file => Text.whole_append.mpr ⟨first file, second file⟩

theorem fits_getD {store : Store} {text? : Option Text} {other : Text} (fits : ∀ text ∈ text?, store.Fits text)
    (fitsToo : store.Fits other) : store.Fits (text?.getD other) := by
  cases text? with
  | none => exact fitsToo
  | some text => exact fits text rfl

theorem Fits.of_path? {store other : Store} {text : Text} (fits : store.Fits text)
    (place : other.path? = store.path?) : other.Fits text := by
  rw [Fits, place]
  exact fits

theorem takes_file {path : Path} {tree : FileTree} {items : Table Text Text} :
    Store.Takes (.file path tree) items ↔ (fileText items).Whole := by
  simp only [Takes, fits_file, whole_fileText]

theorem takes_memory {held items : Table Text Text} : Store.Takes (.memory held) items :=
  fun _ _ => ⟨fits_memory, fits_memory⟩

theorem takes_nil (store : Store) : store.Takes [] := nofun

theorem Takes.of_path? {store other : Store} {items : Table Text Text} (takes : store.Takes items)
    (place : other.path? = store.path?) : other.Takes items :=
  fun entry member => ⟨(takes entry member).1.of_path? place, (takes entry member).2.of_path? place⟩

theorem Takes.put {store : Store} {items : Table Text Text} (takes : store.Takes items) {key value : Text}
    (named : store.Fits key) (valued : store.Fits value) : store.Takes (items.put key value) := by
  intro entry member
  rcases Table.mem_put member with held | rfl
  · exact takes entry held
  · exact ⟨named, valued⟩

theorem Takes.erase {store : Store} {items : Table Text Text} (takes : store.Takes items) (key : Text) :
    store.Takes (items.erase key) :=
  fun entry member => takes entry ((items.erase_sublist key).mem member)

theorem Takes.get? {store : Store} {items : Table Text Text} (takes : store.Takes items) {key : Text} :
    ∀ text ∈ items.get? key, store.Fits text :=
  fun _ held => (takes _ (Table.mem_of_get? held)).2

theorem contents_of_ofText {path : Path} {tree : FileTree} {text : String} {contents : Contents}
    (content : tree.content? path = .ok (some text.toUTF8)) (read : Contents.ofText text = .ok contents) :
    Store.contents (.file path tree) = .ok contents := by
  simp only [Store.contents, content, Contents.ofOctets, Text.decodeUtf8_toUTF8, read]

theorem holds_of_replace {store changed : Store} {items : Table Text Text} (distinct : items.Distinct)
    (replaced : store.replace items = .ok changed) :
    changed.Holds items ∧ changed.path? = store.path? := by
  cases store with
  | memory old =>
    cases replaced
    exact ⟨⟨distinct, rfl, rfl⟩, rfl⟩
  | file path tree =>
    obtain ⟨text, same, written, saved, rfl⟩ := replace_file_eq_ok_iff.mp replaced
    have contents : Store.contents (.file path written) = .ok ⟨items, false⟩ :=
      contents_of_ofText (FileTree.content?_save saved) (same ▸ Contents.ofText_fileText distinct)
    have again : Store.replace items (.file path written) = .ok (.file path written) :=
      replace_file_eq_ok_iff.mpr ⟨text, same, written, FileTree.save_save saved, rfl⟩
    exact ⟨⟨⟨⟨_, contents⟩, FileTree.creatable_of_save saved⟩, contents, again⟩, rfl⟩

theorem path?_of_replace {store changed : Store} {items : Table Text Text}
    (replaced : store.replace items = .ok changed) : changed.path? = store.path? := by
  cases store with
  | memory old => cases replaced; rfl
  | file path tree =>
    obtain ⟨_, _, _, _, rfl⟩ := replace_file_eq_ok_iff.mp replaced
    rfl

theorem items_of_replace_put {store changed : Store} {key value : Text}
    (replaced : store.replace (store.items.put key value) = .ok changed) :
    changed.items = store.items.put key value := by
  cases store with
  | memory old =>
    cases replaced
    rfl
  | file path tree => exact (holds_of_replace ((distinct_items_file path tree).put key value) replaced).1.items

theorem Usable.replace {store : Store} (usable : store.Usable) {items : Table Text Text}
    (takes : store.Takes items) (distinct : items.Distinct) :
    ∃ changed, store.replace items = .ok changed ∧ changed.Holds items ∧ changed.path? = store.path? := by
  have replaces : ∃ changed, store.replace items = .ok changed := by
    cases store with
    | memory old => exact ⟨.memory items, rfl⟩
    | file path tree =>
      obtain ⟨text, same⟩ := Text.whole_iff_exists_ofString.mp (takes_file.mp takes)
      obtain ⟨written, saved⟩ := usable.2.save text.toUTF8
      exact ⟨.file path written, replace_file_eq_ok_iff.mpr ⟨text, same, written, saved, rfl⟩⟩
  obtain ⟨changed, replaced⟩ := replaces
  exact ⟨changed, replaced, holds_of_replace distinct replaced⟩

/-! ## Items that a file cannot hold -/

/-- What is left of a file when its new text has no octets: it is empty, and counts as no JSON text. -/
structure Emptied (store : Store) : Prop where
  usable : store.Usable
  contents : store.contents = .ok ⟨[], true⟩
  octets : ∀ path ∈ store.path?, store.tree.content? path = .ok (some .empty)

theorem Emptied.items {store : Store} (emptied : store.Emptied) : store.items = [] :=
  (contents_items emptied.contents).symm

theorem emptied_of_save {path : Path} {tree written : FileTree} (saved : tree.save path .empty = .ok written) :
    Emptied (.file path written) := by
  have octets : "".toUTF8 = .empty := rfl
  have contents : Store.contents (.file path written) = .ok ⟨[], true⟩ :=
    contents_of_ofText (octets ▸ FileTree.content?_save saved) rfl
  refine ⟨⟨⟨_, contents⟩, FileTree.creatable_of_save saved⟩, contents, ?_⟩
  rintro _ ⟨⟩
  exact FileTree.content?_save saved

theorem Usable.replace_unfit {store : Store} (usable : store.Usable) {items : Table Text Text}
    (unfit : ¬ store.Takes items) :
    (∃ fault, store.replace items = .error (.unencodable fault)) ∧ store.abandoned.Emptied ∧
      store.abandoned.path? = store.path? := by
  cases store with
  | memory old => exact absurd takes_memory unfit
  | file path tree =>
    obtain ⟨written, saved⟩ := usable.2.save .empty
    cases encoded : (fileText items).encode with
    | ok octets => exact absurd (takes_file.mpr (Text.whole_of_encode encoded)) unfit
    | error fault =>
      refine ⟨⟨fault, ?_⟩, ?_, ?_⟩
      · simp only [Store.replace, encoded, saved]
      · simp only [abandoned, saved]
        exact emptied_of_save saved
      · simp only [abandoned, saved]
        rfl

/-! A half stands in a file as an escape, and the text of the file has octets all the same. -/

def loneHalf : Text := .ofList [.half ⟨0xD800, by decide⟩]

def halvedText : String := "\x7b\"x\": \"\\ud800\"\x7d"

def halvedPlace : Path := ⟨.working, ["items"]⟩

def halved : Store := .file halvedPlace [("items", .file halvedText.toUTF8)]

theorem contents_halved : halved.contents = .ok ⟨[("x", loneHalf)], false⟩ :=
  contents_of_ofText rfl (by decide +kernel)

theorem items_halved : halved.items = [(("x" : Text), loneHalf)] := (contents_items contents_halved).symm

theorem usable_halved : halved.Usable := by
  have opened : FileTree.Open [("items", .file halvedText.toUTF8)] halvedPlace ["items"] := ⟨rfl, rfl⟩
  exact ⟨⟨_, contents_halved⟩, .empty, _, opened.save _⟩

theorem unfit_of_get? {store : Store} (file : store.path?.isSome) {name key : Text}
    (half : store.items.get? name = some loneHalf) (other : key ≠ name) (value : Text) :
    ¬ store.Takes (store.items.put key value) := by
  intro takes
  have held : (store.items.put key value).get? name = some loneHalf := by rw [Table.get?_put, if_neg other, half]
  have whole : loneHalf.Whole := takes.get? _ held file
  exact absurd whole (by decide)

theorem unfit_halved {key : Text} (other : key ≠ "x") (value : Text) : ¬ halved.Takes (halved.items.put key value) := by
  have half : halved.items.get? "x" = some loneHalf := by
    rw [items_halved]
    rfl
  exact unfit_of_get? rfl half other value

end Store

end Pushbutton
