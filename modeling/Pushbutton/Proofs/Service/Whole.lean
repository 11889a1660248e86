import Pushbutton.Proofs.Workflow.Whole
import Pushbutton.Service.Body

/-! Texts from the bodies of requests. What holds of all texts in a body holds of those that a form reads from it. -/

set_option autoImplicit false

namespace Pushbutton

namespace Checked

variable {α β : Type}

def Gives (gives : α → Prop) (checked : Checked α) : Prop := ∀ value, checked = .ok value → gives value

variable {gives : α → Prop}

theorem gives_ok {value : α} (given : gives value) : Gives gives (.ok value) := by
  rintro _ ⟨⟩
  exact given

theorem gives_fail {complaint : Complaint} {value : Json} : Gives gives (fail complaint value) := nofun

theorem Gives.within {checked : Checked α} (given : checked.Gives gives) (place : Place) :
    Gives gives (within place checked) := by
  cases checked with
  | ok value => exact gives_ok (given value rfl)
  | error issues => nofun

theorem Gives.map {others : β → Prop} {checked : Checked α} (given : checked.Gives gives) {next : α → β}
    (maps : ∀ value, gives value → others (next value)) : Gives others (Except.map next checked) := by
  cases checked with
  | ok value => exact gives_ok (maps value (given value rfl))
  | error issues => nofun

theorem Gives.map_some {checked : Checked α} (given : checked.Gives gives) :
    Gives (fun found => ∀ value ∈ found, gives value) (Except.map some checked) :=
  given.map fun _ given _ same => Option.some.inj same ▸ given

theorem Gives.both {others : β → Prop} {first : Checked α} {second : Checked β} (one : first.Gives gives)
    (two : second.Gives others) : Gives (fun given => gives given.1 ∧ others given.2) (both first second) := by
  cases first with
  | ok value =>
    cases second with
    | ok other => exact gives_ok ⟨one value rfl, two other rfl⟩
    | error issues => nofun
  | error issues => cases second <;> nofun

variable {property : Text → Prop} {value : Json}

theorem gives_text (all : value.AllTexts property) : (text value).Gives property := by
  cases value with
  | str text => exact gives_ok all
  | _ => exact gives_fail

end Checked

namespace Service

open Checked

variable {property : Text → Prop} {value : Json} {α : Type} {gives : α → Prop} {members : Table Text Json}

theorem gives_member {name : String} {check : Json → Checked α} {absent : α} (all : Json.AllMembers property members)
    (reads : ∀ value, value.AllTexts property → (check value).Gives gives) (given : gives absent) :
    (member members name check absent).Gives gives := by
  unfold member
  split
  · next value held => exact (reads value (all.get? held)).within _
  · exact gives_ok given

theorem gives_needed {name : String} {check : Json → Checked α} (all : Json.AllMembers property members)
    (reads : ∀ value, value.AllTexts property → (check value).Gives gives) :
    (needed members name check).Gives gives := by
  unfold needed
  split
  · next value held => exact (reads value (all.get? held)).within _
  · exact gives_fail.within _

theorem gives_fields {check : Table Text Json → Checked α} (all : value.AllTexts property)
    (reads : ∀ members, Json.AllMembers property members → (check members).Gives gives) :
    (fields check value).Gives gives := by
  cases value with
  | obj members => exact reads members all
  | _ => exact gives_fail

theorem gives_paramsOrNull (all : value.AllTexts property) :
    (paramsOrNull value).Gives fun given => ∀ params ∈ given, params.AllTexts property := by
  cases value with
  | null => exact gives_ok nofun
  | obj members =>
    have read : (Params.ofMembers members).Gives fun params => params.AllTexts property := fun params read field =>
      (Params.ofMembers_eq_ok_iff.mp read field).holds all
    exact read.map_some
  | _ => nofun

theorem gives_newLabel (all : value.AllTexts property) : (newLabel value).Gives property :=
  gives_fields all fun _ all => gives_needed all fun _ => gives_text

theorem gives_newAction (all : value.AllTexts property) :
    (newAction value).Gives fun given => ∀ params ∈ given.params, params.AllTexts property := by
  refine gives_fields all fun members all => ?_
  have kind : (member members "type" kind .alert).Gives fun _ => True := fun _ _ => trivial
  have params : (member members "config" paramsOrNull none).Gives _ :=
    gives_member all (fun _ => gives_paramsOrNull) nofun
  exact (kind.both params).map fun _ given => given.2

theorem gives_amendment (all : value.AllTexts property) :
    (amendment value).Gives fun given => ∀ params ∈ given.params, params.AllTexts property := by
  refine gives_fields all fun members all => ?_
  have kind : (member members "type" kindOrNull none).Gives fun _ => True := fun _ _ => trivial
  have params : (member members "config" paramsOrNull none).Gives _ :=
    gives_member all (fun _ => gives_paramsOrNull) nofun
  exact (kind.both params).map fun _ given => given.2

theorem gives_anyObject (all : value.AllTexts property) :
    (anyObject value).Gives fun given => given.AllTexts property := by
  cases value with
  | obj members => exact gives_ok all
  | _ => exact gives_fail

def Request.AllTexts (property : Text → Prop) (request : Request) : Prop :=
  ∀ value, bodyValue request = .ok value → value.AllTexts property

theorem Request.AllTexts.reads {request : Request} (all : request.AllTexts property) {form : Json → Checked α}
    (reads : ∀ value, value.AllTexts property → (form value).Gives gives) {given : α}
    (read : readBody form request = .ok given) : gives given := by
  unfold readBody at read
  split at read
  · cases read
  · cases said : bodyValue request with
    | error fault => rw [said] at read; cases read
    | ok value =>
      rw [said] at read
      have found := (reads value (all value said)).within (.name "body")
      simp only [bind, Except.bind] at read
      cases checked : Checked.within (.name "body") (form value) with
      | error issues => rw [checked] at read; cases read
      | ok other =>
        rw [checked] at read
        cases read
        exact found _ checked

end Service

end Pushbutton
