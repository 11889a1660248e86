import Pushbutton.Proofs.Text.Quoted
import Pushbutton.Proofs.Workflow.Listing

/-! What a listing tells apart: the line of an action shows each parameter that its kind reads, and whether it is absent
or what it is can be told from the line again. -/

set_option autoImplicit false

namespace Pushbutton

/-! ## Parameters that are present -/

theorem Kind.needs_subset_reads (kind : Kind) : kind.needs ⊆ kind.reads := by cases kind <;> decide

namespace Params

variable {params others : Params} {fields : List Field}

theorem mem_present_iff {field : Field} {value : Text} :
    (field, value) ∈ params.present fields ↔ field ∈ fields ∧ params.get field = some value := by
  simp only [present, List.mem_filterMap, Option.map_eq_some_iff, Prod.mk.injEq]
  constructor
  · rintro ⟨_, listed, _, found, rfl, rfl⟩
    exact ⟨listed, found⟩
  · rintro ⟨listed, found⟩
    exact ⟨field, listed, value, found, rfl, rfl⟩

theorem present_eq_iff :
    params.present fields = others.present fields ↔ ∀ field ∈ fields, params.get field = others.get field := by
  constructor
  · intro same field listed
    ext value
    have found : (field, value) ∈ params.present fields ↔ (field, value) ∈ others.present fields := by rw [same]
    rw [mem_present_iff, mem_present_iff] at found
    simpa [listed] using found
  · intro agree
    apply List.filterMap_congr
    intro field listed
    rw [agree field listed]

theorem missing_congr {kind : Kind} (agree : ∀ field ∈ kind.reads, params.get field = others.get field) :
    missing kind params = missing kind others := by
  apply List.filter_congr
  intro field needed
  rw [agree field (kind.needs_subset_reads needed)]

end Params

/-! ## Parameters in a line -/

namespace Action

def entryText (entry : Field × Text) : String := entry.1.name ++ "=" ++ Text.quoted entry.2

theorem toList_entryText (entry : Field × Text) :
    (entryText entry).toList = entry.1.name.toList ++ '=' :: Text.quote entry.2.toList := by
  simp [entryText, Text.quoted]

/-- No name of a field has the sign in it that ends the name, and the quotes end the value. -/
theorem entryText_append_inj {entry other : Field × Text} {rest more : List Char}
    (same : (entryText entry).toList ++ rest = (entryText other).toList ++ more) : entry = other ∧ rest = more := by
  have plain (field : Field) : '=' ∉ field.name.toList := by cases field <;> decide
  rw [toList_entryText, toList_entryText, List.append_assoc, List.append_assoc, List.cons_append,
    List.cons_append] at same
  obtain ⟨names, values⟩ := Text.append_cons_inj (plain _) (plain _) same
  obtain ⟨texts, ends⟩ := Text.quote_append_inj values
  have fields := Field.name_injective (String.toList_inj.mp names)
  exact ⟨Prod.ext fields (Text.toList_inj.mp texts), ends⟩

def laterText (entries : List (Field × Text)) : List Char :=
  entries.flatMap fun entry => ',' :: ' ' :: (entryText entry).toList

/-- What stands after the last parameter does not look like one more. -/
theorem laterText_append_inj {entries others : List (Field × Text)} {rest more : List Char}
    (ends : rest.head? ≠ some ',') (endsToo : more.head? ≠ some ',')
    (same : laterText entries ++ rest = laterText others ++ more) : entries = others := by
  induction entries generalizing others with
  | nil =>
    cases others with
    | nil => rfl
    | cons other others => exact absurd (congrArg List.head? same) ends
  | cons entry entries ih =>
    cases others with
    | nil => exact absurd (congrArg List.head? same).symm endsToo
    | cons other others =>
      simp only [laterText, List.flatMap_cons, List.cons_append, List.append_assoc, List.cons.injEq, true_and] at same
      obtain ⟨rfl, later⟩ := entryText_append_inj same
      rw [ih later]

theorem toList_intercalate_entryText (first : Field × Text) (later : List (Field × Text)) :
    (", ".intercalate ((first :: later).map entryText)).toList = (entryText first).toList ++ laterText later := by
  induction later generalizing first with
  | nil => simp [laterText]
  | cons second later ih =>
    rw [List.map_cons, List.map_cons, String.intercalate_cons_cons, ← List.map_cons, String.toList_append,
      String.toList_append, ih, List.append_assoc]
    rfl

def shownText (entries : List (Field × Text)) : String :=
  let text := ", ".intercalate (entries.map entryText)
  if text = "" then "" else " " ++ text

theorem toList_shownText_cons (first : Field × Text) (later : List (Field × Text)) :
    (shownText (first :: later)).toList = ' ' :: ((entryText first).toList ++ laterText later) := by
  have given : ", ".intercalate ((first :: later).map entryText) ≠ "" := by
    intro empty
    have characters := toList_intercalate_entryText first later
    rw [empty, toList_entryText] at characters
    simp at characters
  rw [shownText, if_neg given, String.toList_append, toList_intercalate_entryText]
  rfl

theorem head?_missingText_ne (missing : List Field) : (missingText missing).toList.head? ≠ some ',' := by
  by_cases lacks : missing = []
  · rw [lacks]
    decide
  · rw [toList_missingText lacks]
    simp

theorem missingText_ne_shownText (missing others : List Field) (first : Field × Text)
    (later : List (Field × Text)) :
    (missingText missing).toList ≠ (shownText (first :: later)).toList ++ (missingText others).toList := by
  intro same
  rw [toList_shownText_cons, toList_entryText] at same
  by_cases lacks : missing = []
  · rw [lacks] at same
    cases same
  · rw [toList_missingText lacks] at same
    -- a note opens with a bracket, and no name of a field does
    obtain ⟨field, value⟩ := first
    revert same
    cases field <;> simp [Field.name]

theorem shownText_append_inj {entries others : List (Field × Text)} {missing lacking : List Field}
    (same : (shownText entries).toList ++ (missingText missing).toList =
      (shownText others).toList ++ (missingText lacking).toList) : entries = others := by
  -- a line without parameters goes on with the note, one with parameters with the first of them
  match entries, others with
  | [], [] => rfl
  | [], other :: others => exact absurd same (missingText_ne_shownText _ _ other others)
  | entry :: entries, [] => exact absurd same.symm (missingText_ne_shownText _ _ entry entries)
  | entry :: entries, other :: others =>
    simp only [toList_shownText_cons, List.cons_append, List.append_assoc, List.cons.injEq, true_and] at same
    obtain ⟨rfl, later⟩ := entryText_append_inj same
    rw [laterText_append_inj (head?_missingText_ne _) (head?_missingText_ne _) later]

/-! ## Lines and listings -/

def opening (index : Nat) (kind : Kind) (id : Text) : Text :=
  "  " ++ Text.natText index ++ ". " ++ kind.label ++ " [" ++ id ++ "]"

theorem line_eq_opening (index : Nat) (action : Action) :
    action.line index = opening index action.kind action.id ++ (shownText (action.params.present action.kind.reads) ++
      missingText (Params.missing action.kind action.params) : String) := by
  rw [Text.ofString_append, ← Text.append_assoc]
  rfl

theorem line_eq_line_iff (kind : Kind) (index : Nat) (id : Text) (params others : Params) :
    line index ⟨id, kind, params⟩ = line index ⟨id, kind, others⟩ ↔
      ∀ field ∈ kind.reads, params.get field = others.get field := by
  rw [line_eq_opening, line_eq_opening, Text.append_right_inj, Text.ofString_inj]
  constructor
  · intro same
    have characters := congrArg String.toList same
    rw [String.toList_append, String.toList_append] at characters
    exact Params.present_eq_iff.mp (shownText_append_inj characters)
  · intro agree
    dsimp only
    rw [Params.present_eq_iff.mpr agree, Params.missing_congr agree]

end Action

namespace Workflow

theorem actionLines_eq_mapIdx (first : Nat) (actions : List Action) :
    actionLines first actions = actions.mapIdx fun place => Action.line (first + place) := by
  apply List.ext_getElem?
  intro place
  rw [getElem?_actionLines, List.getElem?_mapIdx]

theorem describe_eq (workflow : Workflow) :
    workflow.describe = ("Button: " ++ workflow.displayLabel) ::
      if workflow.actions = [] then [("  (no actions)" : Text)] else workflow.actions.mapIdx Action.line := by
  rw [describe, actionLines_eq_mapIdx]
  simp only [List.isEmpty_iff, Nat.zero_add]

/-- Two actions that stand in one place, with one kind and one id, have one line only if they agree on all that the
kind reads, in what is absent as in what is there. A listing has such a line for every action after that of the
button, in the order of the actions and numbered from zero, or a line that says that there are none. -/
theorem listing_identifies :
    (∀ (kind : Kind) (index : Nat) (id : Text) (params others : Params),
      Action.line index ⟨id, kind, params⟩ = Action.line index ⟨id, kind, others⟩ ↔
        ∀ field ∈ kind.reads, params.get field = others.get field) ∧
    (∀ workflow : Workflow, workflow.describe = ("Button: " ++ workflow.displayLabel) ::
      if workflow.actions = [] then [("  (no actions)" : Text)] else workflow.actions.mapIdx Action.line) ∧
    (∀ (index : Nat) (action : Action), ∃ rest, action.line index =
      "  " ++ Text.natText index ++ ". " ++ action.kind.label ++ " [" ++ action.id ++ "]" ++ rest) :=
  ⟨Action.line_eq_line_iff, describe_eq, fun index action => ⟨_, Action.line_eq_opening index action⟩⟩

end Workflow

end Pushbutton
