import Pushbutton.Proofs.Workflow.Grammar
import Pushbutton.Proofs.Workflow.SaveLoad

/-! Legible stores: whatever octets a file holds, they are read as items or count as none, and whatever text
stands for a workflow is read as one or counts as none. The exceptions are octets that are no text, and whole
numbers of too many digits. -/

set_option autoImplicit false

namespace Pushbutton

/-- Reading the text comes to a whole number of too many digits. -/
def Json.Oversized (text : Text) : Prop := ∃ digits, parse text = .error (.oversizedInteger digits)

/-! ## Records -/

namespace Workflow

theorem ofRecordText_eq_ok_iff {text : Text} {workflow : Workflow} :
    ofRecordText text = .ok (.ok workflow) ↔
      ∃ value, Json.parse text = .ok value ∧ Grammar.Record value workflow := by
  simp only [← ofJson_iff_record]
  unfold ofRecordText
  cases parsed : Json.parse text with
  | error fault => cases fault <;> simp
  | ok value => cases read : ofJson value <;> simp [read]

theorem exists_ofRecordText_iff {text : Text} :
    (∃ read, ofRecordText text = .ok read) ↔ ¬ Json.Oversized text := by
  unfold ofRecordText Json.Oversized
  cases parsed : Json.parse text with
  | error fault => cases fault <;> simp
  | ok value => cases read : ofJson value <;> simp [read]

end Workflow

/-! ## Stores -/

/-- The octets are those of a text in which a reader comes to no number that is too long. -/
def Contents.Legible (octets : ByteArray) : Prop :=
  ∃ text : String, text.toUTF8 = octets ∧ ¬ Json.Oversized text

/-- An absent file is legible, and a directory in its place is not. -/
def Store.Legible : Store → Prop
  | .memory _ => True
  | .file path tree =>
    match tree.content? path with
    | .ok (some octets) => Contents.Legible octets
    | .ok none => True
    | .error _ => False

theorem Contents.ofText_iff {text : Text} :
    (∃ contents, ofText text = .ok contents) ↔ ¬ Json.Oversized text := by
  unfold ofText Json.Oversized
  cases parsed : Json.parse text with
  | error fault => cases fault <;> simp
  | ok value => simp

theorem Contents.ofOctets_iff {octets : ByteArray} :
    (∃ contents, ofOctets octets = .ok contents) ↔ Legible octets := by
  unfold ofOctets
  constructor
  · intro read
    cases decoded : Text.decodeUtf8 octets with
    | error fault => simp [decoded] at read
    | ok text =>
      rw [decoded] at read
      exact ⟨text, Text.toUTF8_of_decodeUtf8 decoded, ofText_iff.mp read⟩
  · intro legible
    obtain ⟨text, rfl, short⟩ := legible
    rw [Text.decodeUtf8_toUTF8]
    exact ofText_iff.mpr short

namespace Store

theorem exists_contents_iff {store : Store} :
    (∃ contents, store.contents = .ok contents) ↔ store.Legible := by
  cases store with
  | memory items => exact ⟨fun _ => trivial, fun _ => ⟨_, rfl⟩⟩
  | file path tree =>
    simp only [Store.contents, Legible]
    cases tree.content? path with
    | error fault =>
      refine ⟨?_, False.elim⟩
      rintro ⟨_, read⟩
      cases read
    | ok found =>
      cases found with
      | none => exact ⟨fun _ => trivial, fun _ => ⟨_, rfl⟩⟩
      | some octets => exact Contents.ofOctets_iff

theorem saved_eq_some_iff {store : Store} {key : Text} {workflow : Workflow} :
    store.saved key = .ok (some workflow) ↔
      ∃ text value, store.items.get? key = some text ∧ Json.parse text = .ok value ∧
        Grammar.Record value workflow := by
  unfold Store.saved
  cases held : store.items.get? key with
  | none => simp
  | some text =>
    have record : Workflow.ofRecordText text = .ok (.ok workflow) ↔
        ∃ value, Json.parse text = .ok value ∧ Grammar.Record value workflow := Workflow.ofRecordText_eq_ok_iff
    simp only [Option.some.injEq, exists_and_left, exists_eq_left', ← record]
    match Workflow.ofRecordText text with
    | .ok (.ok other) => simp [Except.map]
    | .ok (.error reason) => simp [Except.map]
    | .error fault => simp [Except.map]

theorem exists_saved_iff {store : Store} {key : Text} :
    (∃ saved, store.saved key = .ok saved) ↔
      ∀ text, store.items.get? key = some text → ¬ Json.Oversized text := by
  unfold Store.saved
  cases held : store.items.get? key with
  | none => simp
  | some text =>
    simp only [Option.some.injEq, forall_eq', ← Workflow.exists_ofRecordText_iff]
    cases Workflow.ofRecordText text <;> simp [Except.map]

end Store

/-! ## Reading -/

namespace Stage

variable {stage : Stage}

theorem result_load {key : Text} (granted : stage.refusal stage.calls (.getItem key) = none) :
    ((load key).perform stage).1 = stage.store.contents >>= fun _ => stage.store.saved key := by
  obtain ⟨after, loads, _⟩ := perform_load granted
  rw [loads]

/-- Over a legible store every key has a text or none. Under it stands a workflow or none, except when a number
in the text is too long, and a workflow just when the text is that of a record. -/
theorem reads_iff_legible (granted : ∀ number call, stage.refusal number call = none) :
    (∀ key item, ((getItem key).perform stage).1 = .ok item ↔
      stage.store.Legible ∧ stage.store.items.get? key = item) ∧
    (∀ key, (∃ saved, ((load key).perform stage).1 = .ok saved) ↔
      stage.store.Legible ∧ ∀ text, stage.store.items.get? key = some text → ¬ Json.Oversized text) ∧
    ∀ key workflow, ((load key).perform stage).1 = .ok (some workflow) ↔
      stage.store.Legible ∧ ∃ text value, stage.store.items.get? key = some text ∧
        Json.parse text = .ok value ∧ Grammar.Record value workflow := by
  simp only [perform_getItem (granted _ _), result_load (granted _ _), ← Store.exists_contents_iff,
    ← Store.exists_saved_iff, ← Store.saved_eq_some_iff]
  cases stage.store.contents with
  | error fault => simp [Except.map, bind, Except.bind]
  | ok contents => simp [Except.map, bind, Except.bind]

theorem reads_iff_legible_truncated :
    let stage : Stage := { store := .file ⟨.working, ["items"]⟩ [("items", .file "[1".toUTF8)] }
    (∀ number call, stage.refusal number call = none) ∧ stage.store.Legible ∧
    ((getItem "a").perform stage).1 = .ok none ∧ ∃ saved, ((load "a").perform stage).1 = .ok saved := by
  intro stage
  have granted : ∀ number call, stage.refusal number call = none := fun _ _ => rfl
  have short : ¬ Json.Oversized "[1" := fun ⟨_, oversized⟩ => nomatch oversized
  have legible : stage.store.Legible := ⟨"[1", rfl, short⟩
  have absent : stage.store.items.get? "a" = none := rfl
  obtain ⟨item, saved, _⟩ := reads_iff_legible granted
  refine ⟨granted, legible, (item "a" none).mpr ⟨legible, absent⟩, (saved "a").mpr ⟨legible, ?_⟩⟩
  intro text held
  rw [absent] at held
  cases held

/-- An octet that starts no character makes the file a fault, for each key and for the workflow. -/
theorem getItem_undecodable :
    let stage : Stage := { store := .file ⟨.working, ["items"]⟩ [("items", .file ⟨#[0xff]⟩)] }
    ((getItem "a").perform stage).1 = .error (.undecodable ⟨.badStart, 0, 1, 0xff⟩) ∧
    ((load "a").perform stage).1 = .error (.undecodable ⟨.badStart, 0, 1, 0xff⟩) := by
  decide +kernel

end Stage

end Pushbutton
