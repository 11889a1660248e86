import Mathlib.Data.List.Infix
import Pushbutton.Proofs.Text.Joined
import Pushbutton.Proofs.Workflow.Record
import Pushbutton.Workflow.Listing

/-! The lines of a listing: one for each action, in their order, and at the end of each a note exactly on what the
action lacks. -/

set_option autoImplicit false

namespace Pushbutton

/-! ## How a text ends -/

def Text.EndsIn (ends : List Char) (text : Text) : Prop := ∃ c ∈ ends, text.toList.getLast? = some (.char c)

namespace Text

variable {ends : List Char}

theorem EndsIn.of_suffix {text whole : Text} (endsIn : EndsIn ends text) (suffix : text.toList <:+ whole.toList) :
    EndsIn ends whole := by
  obtain ⟨c, member, last⟩ := endsIn
  obtain ⟨front, same⟩ := suffix
  refine ⟨c, member, ?_⟩
  rw [← same, List.getLast?_append, last]
  rfl

theorem EndsIn.append {text : Text} (endsIn : EndsIn ends text) (front : Text) : EndsIn ends (front ++ text) :=
  endsIn.of_suffix (List.suffix_append _ _)

theorem EndsIn.append_string {text : String} (endsIn : EndsIn ends text) (front : String) :
    EndsIn ends (front ++ text : String) := by
  rw [ofString_append]
  exact endsIn.append front

theorem endsIn_intercalate {separator : String} {parts : List String} (given : parts ≠ [])
    (endsIn : ∀ part ∈ parts, EndsIn ends part) : EndsIn ends (separator.intercalate parts) := by
  induction parts with
  | nil => exact absurd rfl given
  | cons first rest ih =>
    rw [List.forall_mem_cons] at endsIn
    cases rest with
    | nil => simpa using endsIn.1
    | cons second rest =>
      rw [String.intercalate_cons_cons]
      exact (ih (List.cons_ne_nil _ _) endsIn.2).append_string _

theorem endsIn_quoted (text : Text) : EndsIn ['\'', '"'] (quoted text) := by
  refine ⟨quoteFor text.toList, ?_, ?_⟩
  · unfold quoteFor
    split <;> simp
  · simp [quoted, quote, List.getLast?_cons, List.getLast?_append]

end Text

/-! ## The note on what is missing -/

namespace Action

def noteText (missing : List Field) : String :=
  "missing: " ++ ", ".intercalate (missing.map Field.name) ++ "; will be skipped)"

theorem missingText_eq {missing : List Field} (lacks : missing ≠ []) :
    missingText missing = " (" ++ noteText missing := by
  have opened : " (missing: " = " (" ++ "missing: " := by decide
  rw [missingText, if_neg (by simpa using lacks), noteText, opened, String.append_assoc, String.append_assoc,
    String.append_assoc]

theorem toList_missingText {missing : List Field} (lacks : missing ≠ []) :
    (missingText missing).toList = ' ' :: '(' :: (noteText missing).toList := by
  rw [missingText_eq lacks, String.toList_append]
  rfl

theorem not_mem_noteText (missing : List Field) : '(' ∉ (noteText missing).toList := by
  rw [noteText, String.toList_append, String.toList_append, List.mem_append, List.mem_append, not_or, not_or]
  refine ⟨⟨by decide, fun member => ?_⟩, by decide⟩
  rcases Text.mem_intercalate member with between | ⟨part, named, inside⟩
  · revert between
    decide
  · obtain ⟨field, -, rfl⟩ := List.mem_map.mp named
    cases field <;> revert inside <;> decide

/-- No name of a field has a comma in it. -/
theorem noteText_injective {fields others : List Field} (given : fields ≠ []) (givenToo : others ≠ [])
    (same : noteText fields = noteText others) : fields = others := by
  have plain (fields : List Field) : ∀ part ∈ (fields.map Field.name).map String.toList, ',' ∉ part := by
    simp only [List.forall_mem_map]
    intro field _
    cases field <;> decide
  have names : ((fields.map Field.name).map String.toList) = ((others.map Field.name).map String.toList) := by
    obtain ⟨field, rest, rfl⟩ := List.exists_cons_of_ne_nil given
    obtain ⟨other, others, rfl⟩ := List.exists_cons_of_ne_nil givenToo
    have joined := String.append_right_inj _ |>.mp (String.append_left_inj _ |>.mp same)
    have lists := congrArg String.toList joined
    rw [String.toList_intercalate, String.toList_intercalate] at lists
    exact Text.eq_of_intercalate_eq (by decide) (plain (field :: rest)) (plain (other :: others)) lists
  have fieldNames := List.map_inj_right (fun _ _ => String.toList_inj.mp) |>.mp names
  exact List.map_inj_right (fun _ _ => @Field.name_injective _ _) |>.mp fieldNames

theorem eq_of_missingText_suffix {fields others : List Field} (given : fields ≠ []) (givenToo : others ≠ [])
    (suffix : (missingText fields : Text).toList <:+ (missingText others : Text).toList) : fields = others := by
  rw [Text.toList_ofString, Text.toList_ofString, toList_missingText given, toList_missingText givenToo] at suffix
  obtain ⟨front, same⟩ := suffix
  simp only [List.map_cons] at same
  -- the brackets of the two notes have to stand at the same place
  match front with
  | [] =>
    simp only [List.nil_append, List.cons.injEq, true_and] at same
    exact noteText_injective given givenToo (Text.ofString_inj.mp (Text.toList_inj.mp same))
  | [c] => simp at same
  | c :: d :: front =>
    simp only [List.cons_append, List.cons.injEq] at same
    refine absurd ((List.mem_map_of_injective fun _ _ => CodePoint.char.inj).mp ?_) (not_mem_noteText others)
    rw [← same.2.2]
    simp

theorem endsIn_missingText {missing : List Field} (lacks : missing ≠ []) :
    Text.EndsIn [')'] (missingText missing) := by
  rw [missingText_eq lacks, noteText]
  have closing : Text.EndsIn [')'] ("; will be skipped)" : String) := ⟨')', List.mem_cons_self, by decide⟩
  exact (closing.append_string _).append_string _

/-! ## Lines -/

def heading (index : Nat) (action : Action) : Text :=
  "  " ++ Text.natText index ++ ". " ++ action.kind.label ++ " [" ++ action.id ++ "]" ++
    (if action.parameterText = "" then "" else " " ++ action.parameterText)

theorem line_eq (index : Nat) (action : Action) :
    action.line index = action.heading index ++ missingText (Params.missing action.kind action.params) := rfl

theorem endsIn_parameterText (action : Action) :
    action.parameterText = "" ∨ Text.EndsIn ['\'', '"'] action.parameterText := by
  unfold parameterText
  by_cases none : action.params.present action.kind.reads = []
  · rw [none]
    exact .inl rfl
  · refine .inr (Text.endsIn_intercalate (mt List.map_eq_nil_iff.mp none) ?_)
    rw [List.forall_mem_map]
    exact fun _ _ => (Text.endsIn_quoted _).append_string _

theorem endsIn_heading (index : Nat) (action : Action) :
    Text.EndsIn [']', '\'', '"'] (action.heading index) := by
  unfold heading
  split
  · exact ⟨']', List.mem_cons_self, by simp [List.getLast?_cons, List.getLast?_append]⟩
  · next given =>
    obtain ⟨c, member, last⟩ := action.endsIn_parameterText.resolve_left given
    have parameters : Text.EndsIn [']', '\'', '"'] action.parameterText := ⟨c, List.mem_cons_of_mem _ member, last⟩
    exact (parameters.append_string _).append _

/-- What a line ends with is a note on all that is missing, and on nothing else. -/
theorem missingText_suffix_line_iff {fields : List Field} (given : fields ≠ []) (index : Nat) (action : Action) :
    (missingText fields : Text).toList <:+ (action.line index).toList ↔
      fields = Params.missing action.kind action.params := by
  rw [line_eq, Text.toList_append]
  constructor
  · intro suffix
    by_cases complete : Params.missing action.kind action.params = []
    · -- without a note the line does not end in a bracket of this kind
      have bare : ((missingText [] : String) : Text).toList = [] := rfl
      rw [complete, bare, List.append_nil] at suffix
      obtain ⟨c, member, last⟩ := (endsIn_missingText given).of_suffix suffix
      obtain ⟨d, others, lastToo⟩ := action.endsIn_heading index
      obtain rfl : d = c := CodePoint.char.inj (Option.some.inj (lastToo.symm.trans last))
      obtain rfl : d = ')' := List.mem_singleton.mp member
      exact absurd others (by decide)
    · rcases List.suffix_or_suffix_of_suffix suffix (List.suffix_append _ _) with inside | inside
      · exact eq_of_missingText_suffix given complete inside
      · exact (eq_of_missingText_suffix complete given inside).symm
  · rintro rfl
    exact List.suffix_append _ _

end Action

namespace Workflow

theorem getElem?_actionLines (first place : Nat) (actions : List Action) :
    (actionLines first actions)[place]? = (actions[place]?).map (Action.line (first + place)) := by
  induction actions generalizing first place with
  | nil => rfl
  | cons action rest ih =>
    cases place with
    | zero => rfl
    | succ place =>
      rw [actionLines, List.getElem?_cons_succ, List.getElem?_cons_succ, ih, Nat.add_right_comm]
      rfl

theorem getElem?_describe {workflow : Workflow} {place : Nat} {action : Action}
    (found : workflow.actions[place]? = some action) : workflow.describe[place + 1]? = some (action.line place) := by
  have filled : workflow.actions.isEmpty = false := by
    cases shape : workflow.actions with
    | nil => rw [shape] at found; cases found
    | cons first rest => rfl
  rw [describe, filled, List.getElem?_cons_succ, if_neg Bool.false_ne_true, getElem?_actionLines, found, Nat.zero_add]
  rfl

end Workflow

end Pushbutton
