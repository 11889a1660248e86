import Mathlib.Data.List.ReduceOption
import Pushbutton.Proofs.Run.Course
import Pushbutton.Proofs.Run.Surface

/-! What is left on a page by a run in which no action fails. Each question meets the answer of its number, and so the
messages on the page and the two texts are told from the actions, the answers and what the store held before. -/

set_option autoImplicit false

namespace Pushbutton

theorem takeAnswer_snd (answers : List (Option Text)) : (takeAnswer answers).2 = answers.tail := by
  cases answers <;> rfl

namespace Action

def questions (action : Action) : Bool := action.kind = .promptAndShow

def question? (action : Action) : Option Text :=
  if action.questions then some (orElse action.params.message "Enter your input:") else none

/-- The message that is shown, unless it is for the window to close. -/
def notice? (opened : Bool) (action : Action) : Option Text :=
  if action.kind = .alert then some (orElse action.params.message "Alert!")
  else if action.kind = .closeWindow ∧ opened = false then some "Please close it manually."
  else none

theorem reloads_iff_getLast? (actions : List Action) :
    (∃ action ∈ throughReload actions, action.kind = .refreshPage) ↔
      ∃ action ∈ (throughReload actions).getLast?, action.kind = .refreshPage := by
  refine ⟨fun reloads => ?_, fun ⟨action, last, reloads⟩ => ⟨action, List.mem_of_getLast? last, reloads⟩⟩
  induction actions with
  | nil => exact absurd reloads (by simp [throughReload])
  | cons action rest ih =>
    rw [throughReload] at reloads ⊢
    by_cases here : action.kind = .refreshPage
    · rw [if_pos here]
      exact ⟨action, rfl, here⟩
    · rw [if_neg here] at reloads ⊢
      obtain ⟨other, member, later⟩ := reloads
      have among := (List.mem_cons.mp member).resolve_left fun same => here (same ▸ later)
      obtain ⟨last, final, ends⟩ := ih ⟨other, among, later⟩
      exact ⟨last, by rw [Option.mem_def, List.getLast?_cons, final]; rfl, ends⟩

theorem response?_eq (action : Action) (answer : Option Text) :
    action.request.response? answer = if action.questions then answer.filter (· ≠ ("" : Text)) else none := by
  unfold request
  cases kind : action.kind <;> cases answer <;> simp [kind, Request.of, Request.response?, questions, Option.filter]

def heard (answers : List (Option Text)) (acted : List Action) : List Text :=
  (answers.take (acted.countP questions)).filterMap (Option.filter (· ≠ ("" : Text)))

theorem getLast?_heard_concat (answers : List (Option Text)) (acted : List Action) (action : Action) :
    (heard answers (acted ++ [action])).getLast? =
      (action.request.response? (answers.getD (acted.countP questions) none)).or (heard answers acted).getLast? := by
  rw [heard, List.countP_append, List.countP_singleton, response?_eq]
  cases action.questions with
  | false => rfl
  | true =>
    rw [if_pos rfl, if_pos rfl, List.take_add_one, List.getD_eq_getElem?_getD]
    cases given : answers[acted.countP questions]? with
    | none =>
      rw [Option.toList_none, List.append_nil]
      rfl
    | some answer => exact getLast?_filterMap_concat _ _ _

end Action

/-! ## Actions on a page -/

def Host.visited (answers : List (Option Text)) (opened : Bool) (acted : List Action) : Host where
  surface := .page (answers.drop (acted.countP Action.questions)) (acted.filterMap (·.notice? opened))
    (acted.filterMap Action.question?)
  openedByOther := opened
  reloaded := acted.any (·.kind = .refreshPage)
  closed := opened && acted.any (·.kind = .closeWindow)

theorem Host.visited_concat (answers : List (Option Text)) (opened : Bool) (acted : List Action) (action : Action) :
    (action.request.call? opened).elim (visited answers opened acted) (visited answers opened acted).after =
      visited answers opened (acted ++ [action]) := by
  unfold Action.request visited
  cases kind : action.kind <;> cases opened <;>
    simp [kind, Request.of, Request.call?, Request.alertFallback, Request.promptFallback, Request.closeByHand, after,
      takeAnswer_snd, Action.questions, Action.question?, Action.notice?]

/-- What an action meets: the items of the store, and the answers that are left. -/
structure Outlook where
  items : Table Text Text
  answers : List (Option Text)

namespace Outlook

def answer (outlook : Outlook) : Option Text := (takeAnswer outlook.answers).1

def past (backed : Bool) (outlook : Outlook) (action : Action) : Outlook where
  items := action.request.items backed outlook.items outlook.answer
  answers := outlook.answers.drop (if action.questions then 1 else 0)

def texts (backed : Bool) : Outlook → List Action → List (Option Text)
  | _, [] => []
  | outlook, action :: rest =>
    action.request.text? outlook.items outlook.answer :: texts backed (outlook.past backed action) rest

variable (backed : Bool) (outlook : Outlook)

theorem answers_foldl (acted : List Action) :
    (acted.foldl (past backed) outlook).answers = outlook.answers.drop (acted.countP Action.questions) := by
  induction acted generalizing outlook with
  | nil => rfl
  | cons action rest ih =>
    rw [List.foldl_cons, ih, past, List.drop_drop, List.countP_cons, Nat.add_comm]

theorem answer_foldl (acted : List Action) :
    (acted.foldl (past backed) outlook).answer = outlook.answers.getD (acted.countP Action.questions) none := by
  rw [answer, answers_foldl, takeAnswer_fst]
  simp [List.getD_eq_getElem?_getD]

theorem texts_concat (acted : List Action) (action : Action) :
    let met := acted.foldl (past backed) outlook
    texts backed outlook (acted ++ [action]) =
      texts backed outlook acted ++ [action.request.text? met.items met.answer] := by
  induction acted generalizing outlook with
  | nil => rfl
  | cons first rest ih => exact congrArg _ (ih _)

theorem texts_eq_mapIdx (acted : List Action) (met : Nat → Outlook)
    (meets : ∀ index, met index = (acted.take index).foldl (past backed) outlook) :
    texts backed outlook acted =
      acted.mapIdx fun index action => action.request.text? (met index).items (met index).answer := by
  induction acted generalizing outlook met with
  | nil => rfl
  | cons action rest ih =>
    rw [texts, List.mapIdx_cons, meets 0, ih _ (fun index => met (index + 1)) fun index => meets (index + 1)]
    rfl

end Outlook

namespace Stage

structure Visited (answers : List (Option Text)) (opened : Bool) (start : Stage) (acted : List Action)
    (stage : Stage) : Prop where
  backed : stage.backed = start.backed
  host : stage.host = .visited answers opened acted
  items : stage.store.items = (acted.foldl (Outlook.past start.backed) ⟨start.store.items, answers⟩).items
  text : stage.output.text =
    (Outlook.texts start.backed ⟨start.store.items, answers⟩ acted).reduceOption.getLast?.getD start.output.text
  response : stage.output.response =
    (Action.heard answers acted).getLast?.getD start.output.response

def outlook (stage : Stage) : Outlook := ⟨stage.store.items, stage.host.given.map Typed.text?⟩

theorem answer_outlook (stage : Stage) : stage.outlook.answer = stage.answer := by
  unfold outlook Outlook.answer Stage.answer
  cases stage.host.given <;> rfl

variable {answers : List (Option Text)} {opened : Bool} {start stage : Stage} {acted : List Action}

theorem Visited.outlook (visited : Visited answers opened start acted stage) :
    stage.outlook = acted.foldl (Outlook.past start.backed) ⟨start.store.items, answers⟩ := by
  have left : (Host.visited answers opened acted).given.map Typed.text? =
      answers.drop (acted.countP Action.questions) := by
    simp [Host.visited, Host.given, Function.comp_def]
  rw [Stage.outlook, visited.items, visited.host, left]
  exact congrArg _ (Outlook.answers_foldl start.backed ⟨start.store.items, answers⟩ acted).symm

theorem visited_turns (answers : List (Option Text)) (opened : Bool) (start : Stage) :
    Turns (Visited answers opened start) where
  dispatch := by
    rintro acted action before _ visited ⟨⟨store, log, events, calls, rfl⟩, items, -, -⟩
    have met := visited.outlook
    obtain ⟨backed, host, held, text, response⟩ := visited
    have answered : before.answer = (acted.foldl (Outlook.past start.backed) ⟨start.store.items, answers⟩).answer :=
      before.answer_outlook.symm.trans (congrArg Outlook.answer met)
    refine ⟨backed, ?_, ?_, ?_, ?_⟩
    · rw [← Host.visited_concat, ← host]
      dsimp only [changed]
      rw [host]
      rfl
    · rw [List.foldl_append]
      rw [answered, backed, held] at items
      exact items
    · dsimp only [changed]
      rw [Outlook.texts_concat, List.reduceOption, getLast?_filterMap_concat, Option.getD_or, ← List.reduceOption,
        ← text, ← held, ← answered]
      rfl
    · dsimp only [changed]
      rw [answered, Outlook.answer_foldl, Action.getLast?_heard_concat, Option.getD_or, ← response]
  told := fun _ _ ⟨backed, host, items, text, response⟩ => ⟨backed, host, items, text, response⟩

/-! ## Runs -/

/-- What is left of these actions on a page, in the store and in the two texts, with the stages between them. -/
structure AccountsFor (answers : List (Option Text)) (opened : Bool) (start : Stage) (acted : List Action)
    (after : Nat → Stage) (last : Stage) : Prop where
  surface : last.host.surface =
    .page (answers.drop (acted.countP Action.questions)) (acted.filterMap (·.notice? opened))
      (acted.filterMap Action.question?)
  closed : last.host.closed = true ↔ opened = true ∧ ∃ action ∈ acted, action.kind = .closeWindow
  reloaded : last.host.reloaded = true ↔ ∃ action ∈ acted.getLast?, action.kind = .refreshPage
  /-- Each question meets the answer of its number, and none when there are no more. -/
  answer : ∀ index, (after index).answer = answers.getD ((acted.take index).countP Action.questions) none
  first : (after 0).store.items = start.store.items
  next : ∀ index action, acted[index]? = some action →
    (after (index + 1)).store.items =
      action.request.items start.backed (after index).store.items (after index).answer
  final : last.store.items = (after acted.length).store.items
  response : last.output.response = (Action.heard answers acted).getLast?.getD start.output.response
  text : last.output.text =
    (acted.mapIdx fun index action =>
      action.request.text? (after index).store.items (after index).answer).reduceOption.getLast?.getD start.output.text

theorem accountsFor_of_run {delay : Seconds} {workflow : Workflow} {last : Stage} {report : Report}
    (ran : (Stage.run delay workflow).perform start = (.ok report, last)) (unfailing : Step.Unfailing report.steps)
    (page : start.host = .page answers opened) :
    AccountsFor answers opened start (Action.throughReload workflow.actions)
      (fun count => (performer delay).midway workflow count start) last := by
  have begun : Visited answers opened start [] start :=
    ⟨rfl, page.trans (by simp [Host.page, Host.visited]), rfl, rfl, rfl⟩
  have whole := (visited_turns answers opened start).run ran unfailing begun
  have midway (count : Nat) := ((visited_turns answers opened start).midway ran unfailing begun count).outlook
  have items (count : Nat) := congrArg Outlook.items (midway count)
  have answered (count : Nat) :=
    (Stage.answer_outlook ((performer delay).midway workflow count start)).symm.trans
      (congrArg Outlook.answer (midway count))
  refine ⟨?_, ?_, ?_, fun index => ?_, items 0, fun index action found => ?_, ?_, whole.response, ?_⟩
  · rw [whole.host]
    rfl
  · rw [whole.host]
    simp [Host.visited]
  · rw [whole.host, ← Action.reloads_iff_getLast?]
    simp [Host.visited]
  · exact (answered index).trans (Outlook.answer_foldl _ _ _)
  · have later := items (index + 1)
    rw [List.take_add_one, found, Option.toList_some, List.foldl_append, ← midway index] at later
    rw [← Stage.answer_outlook]
    exact later
  · have all := items (Action.throughReload workflow.actions).length
    rw [List.take_length] at all
    exact whole.items.trans all.symm
  · rw [whole.text, Outlook.texts_eq_mapIdx _ _ _ _ midway]
    simp only [Stage.answer_outlook]
    rfl

end Stage

end Pushbutton
