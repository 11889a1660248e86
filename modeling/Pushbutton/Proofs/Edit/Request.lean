import Pushbutton.Proofs.Edit.Basic
import Pushbutton.Proofs.Service.Answer
import Pushbutton.Proofs.Service.Target
import Pushbutton.Proofs.Text.Integer
import Pushbutton.Proofs.Workflow.FreshId
import Pushbutton.Proofs.Workflow.Record

/-! The request of an edit leads to its route, and its body says what the edit does. -/

set_option autoImplicit false

namespace Pushbutton

open Service

namespace Edit

/-! ## Routes -/

def route : Edit → Route
  | .add _ _ => .addAction
  | .remove id => .removeAction id
  | .update id _ _ => .amendAction id
  | .move _ _ => .reorder
  | .label _ => .relabel
  | .clear => .clearStorage

def pathParts : Edit → List String
  | .add _ _ => ["workflow", "actions"]
  | .remove id | .update id _ _ => ["workflow", "actions", id]
  | .move _ _ => ["workflow", "reorder"]
  | .label _ => ["workflow", "label"]
  | .clear => ["storage"]

theorem target_eq (edit : Edit) : edit.target = "/".intercalate ("" :: "api" :: edit.pathParts) := by
  have addressed (id : String) : "/api/workflow/actions/" ++ id =
      "/".intercalate (["", "api", "workflow", "actions"] ++ [id]) := by
    rw [String.intercalate_append_of_ne_nil (by simp) (by simp), String.intercalate_singleton]
    rfl
  cases edit with
  | remove id | update id => exact addressed id
  | add | move | label | clear => rfl

theorem plainPart_identifier (n : Nat) : PlainPart (identifier n) := by
  have text : (identifier n).toList = 'i' :: 'd' :: '_' :: Text.hexPadded 32 n := by simp [identifier]
  constructor
  · have literal : ∀ c ∈ 'i' :: 'd' :: '_' :: "0123456789abcdef".toList,
        c ≠ '/' ∧ c ≠ '?' ∧ c ≠ '#' ∧ c ≠ '%' := by simp
    intro c member
    rw [text] at member
    apply literal
    simp only [List.mem_cons] at member ⊢
    rcases member with first | second | third | digit
    · exact .inl first
    · exact .inr (.inl second)
    · exact .inr (.inr (.inl third))
    · exact .inr (.inr (.inr (by simpa using Text.mem_hexDigits digit)))
  · refine ⟨identifier_ne_empty n, ?_, ?_⟩
    all_goals
      intro same
      rw [same] at text
      cases text

theorem Sayable.plainParts {edit : Edit} (sayable : edit.Sayable) :
    ∀ part ∈ "api" :: edit.pathParts, PlainPart part := by
  have words : ∀ part ∈ ["api", "workflow", "actions", "reorder", "label", "storage"], PlainPart part := by
    have literal : ∀ part ∈ ["api", "workflow", "actions", "reorder", "label", "storage"],
        (∀ c ∈ part.toList, c ≠ '/' ∧ c ≠ '?' ∧ c ≠ '#' ∧ c ≠ '%') ∧
          part ≠ "" ∧ part ≠ "." ∧ part ≠ ".." := by simp
    exact fun part member => ⟨(literal part member).1, (literal part member).2⟩
  have known : ∀ part ∈ "api" :: edit.pathParts,
      part ∈ ["api", "workflow", "actions", "reorder", "label", "storage"] ∨ part ∈ edit.id? := by
    cases edit <;> simp [pathParts, id?]
  intro part member
  rcases known part member with word | id
  · exact words part word
  · obtain ⟨n, rfl⟩ := sayable.addressed part id
    exact plainPart_identifier n

theorem Sayable.routing_eq {edit : Edit} (sayable : edit.Sayable) :
    routing edit.method (pathOf edit.target) = .found edit.route := by
  have plain := sayable.plainParts
  have parts : Text.parts '/' (pathOf edit.target) = "" :: "api" :: edit.pathParts := by
    rw [target_eq, pathOf_plain plain]
    apply Text.parts_intercalate
    exact List.forall_mem_cons.mpr ⟨List.not_mem_nil,
      fun part there slash => ((plain part there).literal '/' slash).1 rfl⟩
  have named : ∀ id ∈ edit.id?, id ≠ "" := by
    rintro id member rfl
    obtain ⟨n, same⟩ := sayable.addressed "" member
    exact identifier_ne_empty n same.symm
  rw [routing, routesAt, parts]
  cases edit with
  | remove id | update id =>
    simp only [pathParts, if_neg (named id rfl)]
    rfl
  | add | move | label | clear => rfl

/-! ## What the bodies say -/

section

variable (kind : Option Kind) (flags : List (Field × String))

theorem get?_type : (changeMembers kind flags).get? "type" = kind.map fun kind => .str kind.name := by
  unfold changeMembers
  cases kind <;> cases paramsOf flags <;> rfl

theorem get?_config :
    (changeMembers kind flags).get? "config" = (paramsOf flags).map fun params => .obj params.toMembers := by
  unfold changeMembers
  cases kind <;> cases paramsOf flags <;> rfl

theorem member_config :
    member (changeMembers kind flags) "config" paramsOrNull none = .ok (paramsOf flags) := by
  rw [member, get?_config]
  cases paramsOf flags with
  | none => rfl
  | some params => simp [paramsOrNull, Params.ofJson, params.ofMembers_toMembers, Except.map, Checked.within]

theorem kind_name (kind : Kind) : Service.kind (.str kind.name) = .ok kind := by
  rw [Service.kind, Kind.ofJson?_name]

theorem newAction_changeMembers :
    newAction (.obj (changeMembers kind flags)) = .ok ⟨kind.getD .alert, paramsOf flags⟩ := by
  have typed : member (changeMembers kind flags) "type" Service.kind .alert = .ok (kind.getD .alert) := by
    rw [member, get?_type]
    cases kind with
    | none => rfl
    | some kind => simp [kind_name, Checked.within]
  simp only [newAction, fields, typed, member_config]
  rfl

theorem amendment_changeMembers :
    amendment (.obj (changeMembers kind flags)) = .ok ⟨kind, paramsOf flags⟩ := by
  have typed : member (changeMembers kind flags) "type" kindOrNull none = .ok kind := by
    rw [member, get?_type]
    cases kind with
    | none => rfl
    | some kind => simp [kindOrNull, kind_name, Except.map, Checked.within]
  simp only [amendment, fields, typed, member_config]
  rfl

theorem plain_changeMembers : (Json.obj (changeMembers kind flags)).Plain := by
  unfold changeMembers
  constructor
  · cases kind <;> cases paramsOf flags <;> simp [Table.Distinct, Table.names]
  · cases paramsOf flags with
    | none => cases kind <;> simp [Json.PlainMembers, Json.PlainMember, Json.Plain]
    | some params =>
      have plain : Json.PlainMember ("config", .obj params.toMembers) := params.plain_toMembers
      cases kind with
      | none => exact ⟨plain, trivial⟩
      | some kind => exact ⟨trivial, plain, trivial⟩

end

theorem Sayable.plain {edit : Edit} (sayable : edit.Sayable) {members : Table Text Json}
    (said : edit.members? = some members) : (Json.obj members).Plain := by
  cases edit with
  | add kind flags | update _ kind flags =>
    cases said
    exact plain_changeMembers kind flags
  | move source target =>
    cases said
    have short {text : String} (whole : (Text.integer? text).isSome) :
        (Text.natDigits (position text).natAbs).length ≤ Text.digitLimit := by
      obtain ⟨n, found⟩ := Option.isSome_iff_exists.mp whole
      rw [position, found]
      exact Text.length_natDigits_of_integer? found
    obtain ⟨source, target⟩ := sayable.positions _ _ rfl
    exact ⟨(by decide : (["source", "destination"] : List Text).Nodup), short source, short target, trivial⟩
  | label text =>
    cases said
    exact ⟨(by decide : (["buttonLabel"] : List Text).Nodup), trivial, trivial⟩
  | remove | clear => cases said

theorem Sayable.readBody_request {edit : Edit} (sayable : edit.Sayable) {headers : Table String String}
    (typed : isJson headers = true) {α : Type} {form : Json → Checked α} {members : Table Text Json} {value : α}
    (said : edit.members? = some members) (fits : form (.obj members) = .ok value) :
    readBody form (edit.request headers) = .ok value := by
  have body : (edit.request headers).body = (Json.obj members).render := by
    rw [request, said]
    rfl
  exact readBody_laid typed (sayable.plain said) (body.trans (Json.render_eq_lay _)) fits

end Edit

end Pushbutton
