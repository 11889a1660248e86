import Pushbutton.Proofs.Json.RoundTrip
import Pushbutton.Proofs.Stage.Ends
import Pushbutton.Service.App

/-! Answers of the service to requests for its routes. -/

set_option autoImplicit false

namespace Pushbutton.Service

/-! ## Methods -/

def routeMethods : List String := ["GET", "PUT", "POST", "PATCH", "DELETE"]

theorem method_mem_of_routesAt (path : String) : ∀ entry ∈ routesAt path, entry.1 ∈ routeMethods := by
  unfold routesAt routeMethods
  split <;> try split
  all_goals simp

theorem mem_of_routeAmong {method : String} {routes : List (String × Route)} {route : Route}
    (found : routeAmong method routes = .found route) : (method, route) ∈ routes := by
  unfold routeAmong at found
  split at found
  · cases found
  · split at found
    · next entry among =>
      cases found
      have same : entry.1 = method := by simpa using List.find?_some among
      rw [← same]
      exact List.mem_of_find?_eq_some among
    · cases found

theorem method_of_found {method path : String} {route : Route} (found : routing method path = .found route) :
    method ∈ routeMethods := by
  unfold routing at found
  split at found
  · split at found
    · cases found
    · exact method_mem_of_routesAt _ _ (mem_of_routeAmong found)
  · exact method_mem_of_routesAt _ _ (mem_of_routeAmong found)

/-! ## Responses -/

def Response.Succeeds (response : Response) : Prop := 200 ≤ response.status ∧ response.status < 300

/-- A request for a route is neither a question about other sites nor one for the headers alone. -/
theorem respond_eq_of_found {app : App} {request : Request} {route : Route}
    (routed : routing request.method (pathOf request.target) = .found route) (stage : Stage) :
    app.respond request stage =
      match (handle app.settings request route).perform stage with
      | (.ok response, after) => (withOrigin app.origins request response, after)
      | (.error _, after) => (.broken, after) := by
  have among := method_of_found routed
  have direct : preflight? app.origins request = none := by
    unfold preflight?
    rw [if_neg]
    intro options
    rw [options] at among
    exact absurd among (by decide)
  have whole (response : Response) : response.forMethod request.method = response := by
    unfold Response.forMethod
    rw [if_neg]
    intro head
    rw [head] at among
    exact absurd among (by decide)
  simp only [App.respond, direct, App.answer, routed, whole]
  generalize (handle app.settings request route).perform stage = performed
  obtain ⟨result, after⟩ := performed
  cases result <;> rfl

theorem shownAction_of_isSome {workflow : Workflow} {id : Text} (present : (workflow.find? id).isSome)
    (status : Nat) :
    ∃ action : Action, action.id = id ∧
      shownAction status workflow id = { status, content := .json (actionView action) } := by
  obtain ⟨action, found⟩ := Option.isSome_iff_exists.mp present
  refine ⟨action, ?_, by rw [shownAction, found]⟩
  have same := List.find?_some found
  exact beq_iff_eq.mp same

theorem respond_of_ends {app : App} {request : Request} {route : Route} {stage : Stage}
    {gives : Response → Stage → Prop} {fails : Stage → Prop}
    (routed : routing request.method (pathOf request.target) = .found route)
    (ends : (handle app.settings request route).Ends stage gives fails) :
    (∃ response after, app.respond request stage = (withOrigin app.origins request response, after) ∧
      gives response after) ∨
    ∃ after, app.respond request stage = (.broken, after) ∧ fails after := by
  rw [respond_eq_of_found routed]
  unfold Effect.Ends at ends
  generalize (handle app.settings request route).perform stage = performed at ends
  obtain ⟨result, after⟩ := performed
  cases result with
  | ok response => exact .inl ⟨response, after, rfl, ends⟩
  | error fault => exact .inr ⟨after, rfl, ends⟩

/-! ## Bodies -/

theorem readBody_laid {layout : Json.Layout} {α : Type} {form : Json → Checked α} {request : Request}
    {members : List (Text × Json)} {value : α} (typed : isJson request.headers = true)
    (plain : (Json.obj members).Plain) (body : request.body = Json.lay layout (.obj members))
    (fits : form (.obj members) = .ok value) : readBody form request = .ok value := by
  have brace : ∃ rest, (Json.lay layout (.obj members)).toList = .char '\x7b' :: rest := by
    cases members <;> exact ⟨_, by rw [Json.lay, Json.laid]⟩
  obtain ⟨rest, brace⟩ := brace
  have whole : withoutMark (Json.lay layout (.obj members)) = Json.lay layout (.obj members) := by
    rw [withoutMark]
    split
    · next marked =>
      rw [brace, List.cons.injEq] at marked
      exact absurd marked.1 (by decide)
    · rfl
  have some : Json.lay layout (.obj members) ≠ "" := by
    intro empty
    rw [empty] at brace
    cases brace
  have read : bodyValue request = .ok (.obj members) := by
    rw [bodyValue, if_pos typed, body, whole, Json.parse_lay layout plain]
  rw [readBody, body, if_neg some, read]
  simp only [bind, Except.bind, fits]
  rfl

theorem status_of_bodyFault {fault : BodyFault} {response : Response}
    (refused : fault.response = .ok response) : 400 ≤ response.status := by
  unfold BodyFault.response at refused
  split at refused
  · cases refused
    decide
  · split at refused <;> cases refused
    exact (by decide : 400 ≤ 422)

/-- A body that does not have its form is refused, and nothing has happened by then. -/
theorem ends_withBody {α : Type} {form : Json → Checked α} {request : Request} {handle : α → Effect Response}
    {stage : Stage} {gives : Response → Stage → Prop} {fails : Stage → Prop}
    (refused : ∀ response : Response, 400 ≤ response.status → gives response stage) (failed : fails stage)
    (went : ∀ value, readBody form request = .ok value → (handle value).Ends stage gives fails) :
    (withBody form request handle).Ends stage gives fails := by
  unfold withBody
  cases read : readBody form request with
  | ok value => exact went value read
  | error fault =>
    exact Effect.ends_ofExcept (fun response answer => refused response (status_of_bodyFault answer))
      fun _ _ => failed

end Pushbutton.Service
