import Pushbutton.Proofs.Run.Bond
import Pushbutton.Proofs.Run.Isolation

/-! A page and a console as surfaces of the same run. A page takes its answers from a list of its own; a console
reads lines, and notices may use them up as well. A run cannot tell the two apart as long as its questions meet the
same answers. -/

set_option autoImplicit false

namespace Pushbutton

/-! ## What is asked -/

inductive Ask where
  | notice (message : Text)
  | question (message : Text)
  deriving DecidableEq, Repr

def Call.asks : Call → List Ask
  | .notify message => [.notice message]
  | .prompt message => [.question message]
  | .getItem _ | .setItem _ _ | .removeItem _ | .clear | .reload | .hasOpener | .close => []

theorem Call.asks_of_onStore {call : Call} (onStore : ¬ call.OnHost) : call.asks = [] := by
  cases call with
  | notify | prompt | reload | hasOpener | close => exact absurd trivial onStore
  | getItem | setItem | removeItem | clear => rfl

namespace Event

def asks : Event → List Ask
  | .called call => call.asks
  | .printed _ | .asked _ | .slept _ | .dispatched _ | .served _ _ => []

def shown : Event → Bool
  | .printed _ | .asked _ => true
  | .called _ | .slept _ | .dispatched _ | .served _ _ => false

end Event

/-- A window that nobody opened cannot be closed, and its user is told so. -/
def Request.asks (opened : Bool) : Request → List Ask
  | .alert message => [.notice (orElse message alertFallback)]
  | .closeWindow => if opened then [] else [.notice closeByHand]
  | .promptAndShow message => [.question (orElse message promptFallback)]
  | .showText _ | .showImage _ | .refreshPage | .setLocalStorage _ _ | .getLocalStorage _ | .increaseButtonSize
  | .changeButtonColor _ | .disableButton => []

/-- What actions ask one after another. None is made after a reload of the page. -/
def Action.asks (opened : Bool) : List Action → List Ask
  | [] => []
  | action :: rest =>
    (Request.of action.kind action.params).asks opened ++
      if action.kind = .refreshPage then [] else asks opened rest

/-! ## Answers and lines -/

/-- The same entries one after another; past its end a list gives nothing. -/
def SameEntries (lines others : List (Option Text)) : Prop :=
  ∀ number, lines.getD number none = others.getD number none

theorem takeAnswer_fst (lines : List (Option Text)) : (takeAnswer lines).1 = lines.getD 0 none := by
  cases lines <;> rfl

theorem getD_takeAnswer_snd (lines : List (Option Text)) (number : Nat) :
    (takeAnswer lines).2.getD number none = lines.getD (number + 1) none := by
  cases lines <;> rfl

namespace SameEntries

variable {lines others : List (Option Text)}

theorem first (same : SameEntries lines others) : (takeAnswer lines).1 = (takeAnswer others).1 := by
  rw [takeAnswer_fst, takeAnswer_fst]
  exact same 0

theorem rest (same : SameEntries lines others) : SameEntries (takeAnswer lines).2 (takeAnswer others).2 := by
  intro number
  rw [getD_takeAnswer_snd, getD_takeAnswer_snd]
  exact same (number + 1)

end SameEntries

namespace Ask

/-- The lines for a console that waits after each notice: the answers, with one entry more for each notice. -/
def weave : List Ask → List (Option Text) → List (Option Text) → List (Option Text)
  | [], _, answers => answers
  | .notice _ :: asks, entries, answers => (takeAnswer entries).1 :: weave asks (takeAnswer entries).2 answers
  | .question _ :: asks, entries, answers => (takeAnswer answers).1 :: weave asks entries (takeAnswer answers).2

/-- Each question meets the same on a page and on a console, which may use up a line for each notice. -/
def Meets (waits : Bool) : List Ask → List (Option Text) → List (Option Text) → Prop
  | [], _, _ => True
  | .notice _ :: asks, answers, lines => Meets waits asks answers (if waits then (takeAnswer lines).2 else lines)
  | .question _ :: asks, answers, lines =>
    (takeAnswer answers).1 = (takeAnswer lines).1 ∧ Meets waits asks (takeAnswer answers).2 (takeAnswer lines).2

theorem meets_of_same (asks : List Ask) {answers lines : List (Option Text)} (same : SameEntries lines answers) :
    Meets false asks answers lines := by
  induction asks generalizing answers lines with
  | nil => trivial
  | cons ask asks ih =>
    cases ask with
    | notice message => exact ih same
    | question message => exact ⟨same.first.symm, ih same.rest⟩

theorem meets_of_weave (asks : List Ask) {entries answers lines : List (Option Text)}
    (same : SameEntries lines (weave asks entries answers)) : Meets true asks answers lines := by
  induction asks generalizing entries answers lines with
  | nil => trivial
  | cons ask asks ih =>
    cases ask with
    | notice message => exact ih same.rest
    | question message => exact ⟨same.first.symm, ih same.rest⟩

end Ask

/-! ## A page and a console -/

namespace Host

variable (host : Host) (call : Call)

theorem filter_shows : (host.shows call).filter (!·.shown) = [.called call] := by
  obtain ⟨surface⟩ := host
  cases surface with
  | page answers notifications prompts => rfl
  | console waits lines => cases waits <;> cases call <;> rfl

theorem asks_shows : (host.shows call).flatMap Event.asks = call.asks := by
  obtain ⟨surface⟩ := host
  cases surface with
  | page answers notifications prompts => exact List.append_nil _
  | console waits lines => cases waits <;> cases call <;> rfl

theorem openedByOther_after : (host.after call).openedByOther = host.openedByOther := by
  obtain ⟨surface⟩ := host
  cases surface <;> cases call <;> rfl

theorem reloaded_after : (host.after call).reloaded = (host.reloaded || call = .reload) := by
  obtain ⟨surface⟩ := host
  cases surface <;> cases call <;> simp [after]

theorem closed_after : (host.after call).closed = (host.closed || call = .close) := by
  obtain ⟨surface⟩ := host
  cases surface <;> cases call <;> simp [after]

end Host

namespace Stage

/-- Stages that differ in no more than the surfaces of their hosts, and in what only a console shows. -/
structure Resembles (page console : Stage) : Prop where
  store : page.store = console.store
  output : page.output = console.output
  backed : page.backed = console.backed
  control : page.control = console.control
  openedByOther : page.host.openedByOther = console.host.openedByOther
  reloaded : page.host.reloaded = console.host.reloaded
  closed : page.host.closed = console.host.closed
  draws : page.draws = console.draws
  ids : page.ids = console.ids
  events : page.events.filter (!·.shown) = console.events.filter (!·.shown)
  log : page.log = console.log
  calls : page.calls = console.calls
  refusal : page.refusal = console.refusal

theorem Resembles.events_append {page console : Stage} (same : Resembles page console) (more : List Event) :
    (page.events ++ more).filter (!·.shown) = (console.events ++ more).filter (!·.shown) := by
  rw [List.filter_append, List.filter_append, same.events]

def HostReady (stage : Stage) : Prop := ∀ number call, call.OnHost → stage.refusal number call = none

/-- A page and a console in step. Of all that the run asks this is still to come, and both meet it alike. -/
structure Echoes (waits opened : Bool) (all asks : List Ask) (page console : Stage) : Prop
    extends Resembles page console where
  granted : console.HostReady
  opened : console.host.openedByOther = opened
  asked : page.events.flatMap Event.asks ++ asks = all
  surfaces : ∃ answers notifications prompts lines,
    page.host.surface = .page answers notifications prompts ∧
      console.host.surface = .console waits (lines.map Typed.ofAnswer) ∧ Ask.Meets waits asks answers lines

section

open Effect

variable {waits opened : Bool} {all asks : List Ask} {page console : Stage}

theorem Echoes.asked_append (echoes : Echoes waits opened all asks page console) (event : Event)
    (silent : event.asks = []) : (page.events ++ [event]).flatMap Event.asks ++ asks = all := by
  simpa [silent] using echoes.asked

theorem Echoes.amended (change : Output → Output) (page console : Stage)
    (echoes : Echoes waits opened all asks page console) :
    Echoes waits opened all asks { page with output := change page.output }
      { console with output := change console.output } :=
  { echoes with output := congrArg change echoes.output }

theorem Echoes.quiet {change : Stage → Stage} (quiet : Quiet change) (page console : Stage)
    (echoes : Echoes waits opened all asks page console) :
    Echoes waits opened all asks (change page) (change console) := by
  cases quiet with
  | noted entry => exact { echoes with log := congrArg (· ++ [entry]) echoes.log }
  | slept delay =>
    exact { echoes with events := echoes.events_append _, asked := echoes.asked_append (.slept delay) rfl }
  | drawn =>
    exact { echoes with draws := congrArg (fun draws : Draws => { draws with used := draws.used + 1 }) echoes.draws }
  | answered response => exact echoes.amended (fun output => { output with response }) page console
  | disabled => exact echoes.amended (fun output => { output with disabled := true }) page console
  | styled property value =>
    exact { echoes with control := congrArg (Option.map (·.setStyle property value)) echoes.control }

/-! ### Calls on the store -/

theorem echoes_shares : Shares (Echoes waits opened all asks) where
  store := fun echoes => echoes.store
  refused := fun echoes _ => by rw [echoes.refusal, echoes.calls]
  counted := fun echoes => { echoes with calls := congrArg (· + 1) echoes.calls }
  called := fun onStore echoes =>
    { echoes with
      calls := congrArg (· + 1) echoes.calls
      events := echoes.events_append _
      asked := echoes.asked_append (.called _) (Call.asks_of_onStore onStore) }
  logged := fun entries echoes => { echoes with log := congrArg (· ++ entries) echoes.log }
  stored := fun _ echoes => { echoes with store := rfl }

theorem echoes_bond : Bond (fun _ => False) (fun _ => True) (fun _ => True) (Echoes waits opened all asks) where
  control := fun echoes => echoes.control
  draws := fun echoes => echoes.draws
  quiet := Echoes.quiet
  getItem := fun _ => (echoes_shares.getItem _).unless _
  setItem := fun _ _ => (echoes_shares.setItem _ _).unless _
  setText := by
    intro text
    apply Twin.unless
    apply twin_modify_setItem
    · exact Echoes.amended fun output => { output with text }
    · exact fun _ _ echoes => echoes.backed
    · exact echoes_shares.setItem _ _
  setImageUrl := by
    intro imageUrl
    apply Twin.unless
    apply twin_modify_setItem
    · exact Echoes.amended fun output => { output with imageUrl }
    · exact fun _ _ echoes => echoes.backed
    · exact echoes_shares.setItem _ _

/-! ### Calls on the host -/

theorem Echoes.hosted {call : Call} (onHost : call.OnHost)
    (echoes : Echoes waits opened all (call.asks ++ asks) page console) :
    (∃ reply, page.host.reply call = .ok reply ∧ console.host.reply call = .ok reply) ∧
      Echoes waits opened all asks (page.hosted call) (console.hosted call) := by
  obtain ⟨same, granted, opener, asked, answers, notifications, prompts, lines, paged, lined, meets⟩ := echoes
  have alike : Resembles (page.hosted call) (console.hosted call) := by
    refine { same with openedByOther := ?_, reloaded := ?_, closed := ?_, events := ?_, calls := ?_ }
    · simp only [Stage.hosted, Host.openedByOther_after, same.openedByOther]
    · simp only [Stage.hosted, Host.reloaded_after, same.reloaded]
    · simp only [Stage.hosted, Host.closed_after, same.closed]
    · simp only [Stage.hosted, List.filter_append, Host.filter_shows, same.events]
    · exact congrArg (· + 1) same.calls
  have made : (page.events ++ page.host.shows call).flatMap Event.asks ++ asks = all := by
    rw [List.flatMap_append, Host.asks_shows, List.append_assoc]
    exact asked
  have stays : (console.host.after call).openedByOther = opened :=
    (console.host.openedByOther_after call).trans opener
  suffices answered : (∃ reply, page.host.reply call = .ok reply ∧ console.host.reply call = .ok reply) ∧
      ∃ answers notifications prompts lines, (page.host.after call).surface = .page answers notifications prompts ∧
        (console.host.after call).surface = .console waits (lines.map Typed.ofAnswer) ∧
          Ask.Meets waits asks answers lines from
    ⟨answered.1, alike, granted, stays, made, answered.2⟩
  cases call with
  | notify message =>
    simp only [Host.reply, Host.after, paged, lined]
    cases waits with
    | false => exact ⟨⟨(), trivial, rfl⟩, _, _, _, _, rfl, rfl, meets⟩
    | true =>
      simp only [Typed.takeLine_map_ofAnswer, Typed.read_ofAnswer]
      exact ⟨⟨(), trivial, rfl⟩, _, _, _, _, rfl, rfl, meets⟩
  | prompt message =>
    simp only [Host.reply, Host.given, Host.after, paged, lined, Typed.takeLine_map_ofAnswer, Typed.read_ofAnswer]
    exact ⟨⟨_, rfl, congrArg Except.ok meets.1.symm⟩, _, _, _, _, rfl, rfl, meets.2⟩
  | hasOpener => exact ⟨⟨_, rfl, congrArg Except.ok same.openedByOther.symm⟩, _, _, _, _, paged, lined, meets⟩
  | reload | close => exact ⟨⟨(), rfl, rfl⟩, _, _, _, _, paged, lined, meets⟩
  | getItem | setItem | removeItem | clear => exact onHost.elim

theorem Echoes.perform (echoes : Echoes waits opened all asks page console) {call : Call} (onHost : call.OnHost) :
    call.effect.perform page = (page.host.reply call, page.hosted call) ∧
      call.effect.perform console = (console.host.reply call, console.hosted call) := by
  have granted := echoes.granted console.calls call onHost
  exact ⟨perform_onHost onHost ((echoes_shares.refused echoes call).trans granted), perform_onHost onHost granted⟩

theorem leads_call_echoes (call : Call) (onHost : call.OnHost) :
    call.effect.Leads (Echoes waits opened all (call.asks ++ asks)) (Echoes waits opened all asks) := by
  intro page console echoes
  obtain ⟨⟨reply, paged, printed⟩, hosted⟩ := echoes.hosted onHost
  obtain ⟨one, other⟩ := echoes.perform onHost
  rw [one, other]
  exact ⟨paged.trans printed.symm, hosted⟩

/-- It is settled beforehand who opened the window. -/
theorem leads_hasOpener_bind {α : Type} {next : Bool → Effect α} {after : Stage → Stage → Prop}
    (rest : (next opened).Leads (Echoes waits opened all asks) after) :
    (Call.hasOpener.effect >>= next).Leads (Echoes waits opened all asks) after := by
  intro page console echoes
  have onHost : Call.hasOpener.OnHost := trivial
  obtain ⟨_, hosted⟩ := Echoes.hosted onHost echoes
  obtain ⟨one, other⟩ := echoes.perform onHost
  have opener : console.host.reply .hasOpener = .ok opened := congrArg Except.ok echoes.opened
  have openerToo : page.host.reply .hasOpener = .ok opened :=
    congrArg Except.ok (echoes.openedByOther.trans echoes.opened)
  rw [opener] at other
  rw [openerToo] at one
  rw [perform_bind_of_ok one, perform_bind_of_ok other]
  exact rest _ _ hosted

theorem leads_request_echoes {request : Request} (onHost : request.OnHost) :
    request.perform.Leads (Echoes waits opened all (request.asks opened ++ asks))
      (Echoes waits opened all asks) := by
  cases request with
  | alert message => exact (leads_call_echoes (.notify _) trivial).bind fun _ => twin_pure _
  | refreshPage => exact (leads_call_echoes .reload trivial).bind fun _ => twin_pure _
  | closeWindow =>
    apply leads_hasOpener_bind
    cases opened with
    | true => exact (leads_call_echoes .close trivial).bind fun _ => twin_pure _
    | false => exact (leads_call_echoes (.notify _) trivial).bind fun _ => twin_pure _
  | promptAndShow message =>
    apply (leads_call_echoes (.prompt _) trivial).bind
    intro response
    apply Twin.ite
    · exact fun _ => twin_pure _
    · intro _
      apply (leads_iff.mpr (echoes_bond.setText _)).bind
      exact fun _ => (leads_iff.mpr (echoes_bond.modify (.answered _))).bind fun _ => twin_pure _
  | showText | showImage | setLocalStorage | getLocalStorage | increaseButtonSize | changeButtonColor
  | disableButton => exact onHost.elim

/-! ## Runs -/

theorem leads_dispatch_echoes (action : Action) :
    action.dispatch.Leads
      (Echoes waits opened all ((Request.of action.kind action.params).asks opened ++ asks))
      (Echoes waits opened all asks) := by
  by_cases onHost : (Request.of action.kind action.params).OnHost
  · exact leads_iff.mpr (echoes_bond.reported (leads_iff.mp (leads_request_echoes onHost)))
  · have silent : (Request.of action.kind action.params).asks opened = [] := by
      cases kind : action.kind <;> rw [kind] at onHost <;> first | rfl | exact absurd trivial onHost
    rw [silent]
    exact leads_iff.mpr
      (echoes_bond.dispatch (fun _ _ => trivial) (fun _ _ => trivial) fun asks => absurd asks onHost)

theorem perform_dispatch_refreshPage {action : Action} (refreshes : action.kind = .refreshPage) {stage : Stage}
    (granted : stage.HostReady) :
    action.dispatch.perform stage = (.ok .terminated, stage.hosted .reload) := by
  have onHost : Call.reload.OnHost := trivial
  have performed : (Request.of action.kind action.params).perform.perform stage =
      (.ok .terminated, stage.hosted .reload) := by
    rw [refreshes]
    exact perform_bind_of_ok (perform_onHost onHost (granted _ _ onHost)) _
  rw [Action.dispatch, perform_bind_of_ok performed]
  rfl

theorem asks_left {action : Action} {stage : Stage} (granted : stage.HostReady) (rest : List Action) :
    Action.asks opened (Performer.left rest (action.dispatch.perform stage).1) =
      if action.kind = .refreshPage then [] else Action.asks opened rest := by
  by_cases refreshes : action.kind = .refreshPage
  · rw [perform_dispatch_refreshPage refreshes granted, if_pos refreshes]
    rfl
  · have goesOn : Performer.left rest (action.dispatch.perform stage).1 = rest := by
      cases result : (action.dispatch.perform stage).1 with
      | ok outcome =>
        obtain ⟨same, _⟩ := (action.settled_dispatch rfl).value outcome result
        exact if_neg fun ends => refreshes ((action.outcome_eq_terminated_iff _).mp (same.symm.trans ends))
      | error fault => rfl
    rw [goesOn, if_neg refreshes]

theorem paired_echoes (waits opened : Bool) (all : List Ask) (delay : Seconds) :
    Performer.Paired (fun ahead => Echoes waits opened all (Action.asks opened ahead)) (performer delay)
      (performer delay) where
  dispatch := by
    intro action rest page console echoes
    obtain ⟨same, after⟩ := leads_dispatch_echoes action page console echoes
    have granted : page.HostReady := by
      unfold HostReady
      rw [echoes.refusal]
      exact echoes.granted
    refine ⟨same, ?_⟩
    have left : Action.asks opened (Performer.left rest ((performer delay).dispatch action page).1) = _ :=
      asks_left granted rest
    rw [left]
    exact after
  pause := fun _ => Echoes.quiet (.slept delay)
  notice := fun notice _ => Echoes.quiet (.noted (noticeEntry notice))

end

/-- Two runs that give the same report and leave the same, but for the surfaces of their hosts. -/
structure SameRun (one other : Except Fault Report × Stage) : Prop extends Resembles one.2 other.2 where
  report : ∃ report, one.1 = .ok report ∧ other.1 = .ok report

theorem run_echoes {waits opened : Bool} {stage : Stage} (granted : stage.HostReady) (delay : Seconds)
    (workflow : Workflow) {answers lines : List (Option Text)}
    (meets : Ask.Meets waits (Action.asks opened workflow.actions) answers lines) :
    let paged := (Stage.run delay workflow).perform { stage with host := .page answers opened }
    let printed :=
      (Stage.run delay workflow).perform { stage with host := .console (lines.map Typed.ofAnswer) waits opened }
    SameRun paged printed ∧
      paged.2.events.flatMap Event.asks =
        stage.events.flatMap Event.asks ++ Action.asks opened workflow.actions := by
  intro paged printed
  have start : Echoes waits opened (stage.events.flatMap Event.asks ++ Action.asks opened workflow.actions)
      (Action.asks opened workflow.actions) { stage with host := .page answers opened }
      { stage with host := .console (lines.map Typed.ofAnswer) waits opened } :=
    ⟨⟨rfl, rfl, rfl, rfl, rfl, rfl, rfl, rfl, rfl, rfl, rfl, rfl, rfl⟩, granted, rfl, rfl, answers, [], [], lines,
      rfl, rfl, meets⟩
  obtain ⟨report, _, after⟩ := (paired_echoes _ _ _ delay).run workflow start
  refine ⟨⟨after.toResembles, _, rfl, congrArg Except.ok report.symm⟩, ?_⟩
  exact (List.append_nil _).symm.trans after.asked

/-- A console is as good as a page. What a run does with a page it does with a console, with or without an opener:
with one that does not wait, if its lines are the answers of the page; and with one that waits after each notice, if
any entries at all, lines or ends of the input, stand between the answers at the places where the run gives notice.
The list of what a run asks says where these are: it is what the run on the page asked, one after another. Calls on
the store may raise faults; none on the host does. -/
theorem run_page_console {stage : Stage} (granted : stage.HostReady) (delay : Seconds) (workflow : Workflow)
    (answers : List (Option Text)) (opened : Bool) :
    let paged := (Stage.run delay workflow).perform { stage with host := .page answers opened }
    let printed (lines : List (Option Text)) (waits : Bool) :=
      (Stage.run delay workflow).perform { stage with host := .console (lines.map Typed.ofAnswer) waits opened }
    let asks := Action.asks opened workflow.actions
    paged.2.events.flatMap Event.asks = stage.events.flatMap Event.asks ++ asks ∧
    (∀ lines, SameEntries lines answers → SameRun paged (printed lines false)) ∧
    ∀ entries lines, SameEntries lines (Ask.weave asks entries answers) → SameRun paged (printed lines true) := by
  intro paged printed asks
  have weaved (entries : List (Option Text)) : Ask.Meets true asks answers (Ask.weave asks entries answers) :=
    Ask.meets_of_weave asks fun _ => rfl
  refine ⟨(run_echoes granted delay workflow (weaved [])).2, fun lines same => ?_, fun entries lines same => ?_⟩
  · exact (run_echoes granted delay workflow (Ask.meets_of_same asks same)).1
  · exact (run_echoes granted delay workflow (Ask.meets_of_weave asks same)).1

/-- Notices and questions in turn, and a last question that is never put. -/
def conversing : Workflow where
  actions := [{ id := "a", kind := .alert }, { id := "b", kind := .promptAndShow },
    { id := "c", kind := .closeWindow }, { id := "d", kind := .promptAndShow }, { id := "e", kind := .refreshPage },
    { id := "f", kind := .promptAndShow }]

/-- The input ends at the first notice and goes on after it, and the store refuses the first answer. -/
theorem run_page_console_conversing :
    let refuses (_ : Nat) (call : Call) : Option Fault :=
      if call = .setItem Output.textKey "Response: 1" then some (.external "OSError" "") else none
    let stage : Stage := { store := .memory [], refusal := refuses }
    let asks := Action.asks false conversing.actions
    stage.HostReady ∧
    asks = [.notice "Alert!", .question "Enter your input:", .notice "Please close it manually.",
      .question "Enter your input:"] ∧
    Ask.weave asks [none, some "2"] [some "1", some "3"] =
      [none, some ("1" : Text), some ("2" : Text), some ("3" : Text)] ∧
    SameRun ((Stage.run (.whole 0) conversing).perform { stage with host := .page [some "1", some "3"] false })
      ((Stage.run (.whole 0) conversing).perform
        { stage with host := .console [.ended, .line "1", .line "2", .line "3"] true false }) := by
  intro refuses stage asks
  have granted : stage.HostReady := by
    intro number call onHost
    refine if_neg ?_
    rintro rfl
    exact onHost
  obtain ⟨_, _, waiting⟩ := run_page_console granted (.whole 0) conversing [some "1", some "3"] false
  have weaved : Ask.weave asks [none, some "2"] [some "1", some "3"] =
      [none, some ("1" : Text), some ("2" : Text), some ("3" : Text)] := rfl
  have same : SameEntries [none, some ("1" : Text), some ("2" : Text), some ("3" : Text)]
      (Ask.weave asks [none, some "2"] [some "1", some "3"]) := by
    rw [weaved]
    exact fun _ => rfl
  have made := waiting [none, some "2"] _ same
  simp only [List.map_cons, List.map_nil, Typed.ofAnswer] at made
  exact ⟨granted, rfl, weaved, made⟩

end Stage

end Pushbutton
