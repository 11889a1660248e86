import Pushbutton.Proofs.Run.Footprint

/-! What an action does when it raises no fault. All that it leaves on a stage is told from the stage before it: what
is shown, stored, asked and drawn, and what becomes of the button. -/

set_option autoImplicit false

namespace Pushbutton

/-! ## What is told of it beforehand -/

def Table.kept (backed : Bool) (key value : Text) (items : Table Text Text) : Table Text Text :=
  if backed then items.put key value else items

def Draws.next (draws : Draws) : Nat := draws.number draws.used

def Draws.past (draws : Draws) (count : Nat) : Draws := { draws with used := draws.used + count }

namespace Request

/-- The text that is shown. It goes by what the store holds, or by the answer to a question. -/
def text? (items : Table Text Text) (answer : Option Text) : Request → Option Text
  | .showText message => some (message.getD "")
  | .getLocalStorage key =>
    if key.getD "" = "" then none
    else some (key.getD "" ++ ": " ++ (items.get? (key.getD "")).getD absentValue)
  | .promptAndShow _ => if answer.getD "" = "" then none else some ("Response: " ++ answer.getD "")
  | .alert _ | .showImage _ | .refreshPage | .setLocalStorage _ _ | .increaseButtonSize | .closeWindow
  | .changeButtonColor _ | .disableButton => none

def response? (answer : Option Text) : Request → Option Text
  | .promptAndShow _ => if answer.getD "" = "" then none else some (answer.getD "")
  | .alert _ | .showText _ | .showImage _ | .refreshPage | .setLocalStorage _ _ | .getLocalStorage _
  | .increaseButtonSize | .closeWindow | .changeButtonColor _ | .disableButton => none

def imageUrl? : Request → Option Text
  | .showImage imageUrl => some (imageUrl.getD "")
  | .alert _ | .showText _ | .refreshPage | .setLocalStorage _ _ | .getLocalStorage _ | .increaseButtonSize
  | .closeWindow | .promptAndShow _ | .changeButtonColor _ | .disableButton => none

def items (backed : Bool) (items : Table Text Text) (answer : Option Text) (request : Request) : Table Text Text :=
  match request with
  | .setLocalStorage key value => if key.getD "" = "" then items else items.put (key.getD "") (value.getD "")
  | .showImage imageUrl => items.kept backed Output.imageKey (imageUrl.getD "")
  | _ =>
    match request.text? items answer with
    | some text => items.kept backed Output.textKey text
    | none => items

theorem items_eq_kept {request : Request} {held : Table Text Text} {answer : Option Text} {text : Text}
    (shown : request.text? held answer = some text) (backed : Bool) :
    request.items backed held answer = held.kept backed Output.textKey text := by
  cases request with
  | setLocalStorage | showImage => cases shown
  | _ => simp only [items, shown]

/-- The call on the host, if one is made besides the question who opened the window. -/
def call? (opened : Bool) : Request → Option Call
  | .alert message => some (.notify (orElse message alertFallback))
  | .refreshPage => some .reload
  | .closeWindow => some (if opened then .close else .notify closeByHand)
  | .promptAndShow message => some (.prompt (orElse message promptFallback))
  | .showText _ | .showImage _ | .setLocalStorage _ _ | .getLocalStorage _ | .increaseButtonSize
  | .changeButtonColor _ | .disableButton => none

def style? (number : Nat) : Request → Option (String × Text)
  | .increaseButtonSize => some ("transform", enlarged)
  | .changeButtonColor color =>
    some ("backgroundColor", if color.getD "" = "" then (colorText number : Text) else color.getD "")
  | .alert _ | .showText _ | .showImage _ | .refreshPage | .setLocalStorage _ _ | .getLocalStorage _
  | .closeWindow | .promptAndShow _ | .disableButton => none

def draws : Request → Bool
  | .changeButtonColor color => color.getD "" = ""
  | .alert _ | .showText _ | .showImage _ | .refreshPage | .setLocalStorage _ _ | .getLocalStorage _
  | .increaseButtonSize | .closeWindow | .promptAndShow _ | .disableButton => false

def disables : Request → Bool
  | .disableButton => true
  | .alert _ | .showText _ | .showImage _ | .refreshPage | .setLocalStorage _ _ | .getLocalStorage _
  | .increaseButtonSize | .closeWindow | .promptAndShow _ | .changeButtonColor _ => false

end Request

def Typed.text? : Typed → Option Text
  | .line text => some text
  | .ended | .undecodable _ => none

@[simp] theorem Typed.text?_ofAnswer (answer : Option Text) : (ofAnswer answer).text? = answer := by
  cases answer <;> rfl

theorem Typed.text?_of_read {typed : Typed} {answer : Option Text} (read : typed.read = .ok answer) :
    typed.text? = answer := by
  cases typed <;> cases read <;> rfl

namespace Stage

def answer (stage : Stage) : Option Text := (takeLine stage.host.given).1.text?

/-- What a request makes of the stage when no call raises a fault, apart from the store and what is told of calls. -/
def changed (stage : Stage) (request : Request) : Stage :=
  { stage with
    output := {
      text := (request.text? stage.store.items stage.answer).getD stage.output.text
      response := (request.response? stage.answer).getD stage.output.response
      imageUrl := request.imageUrl?.getD stage.output.imageUrl
      disabled := request.disables || stage.output.disabled }
    host := (request.call? stage.host.openedByOther).elim stage.host stage.host.after
    control := (request.style? stage.draws.next).elim stage.control fun style =>
      stage.control.map (·.setStyle style.1 style.2)
    draws := stage.draws.past (if request.draws && stage.control.isSome then 1 else 0) }

/-- The store was used and has these items now. Beyond it the calls have left no more than events and the log. -/
structure Used (items : Table Text Text) (before after : Stage) : Prop where
  rest : ∃ store log events calls, after = { before with store, log, events, calls }
  items : after.store.items = items
  place : after.store.path? = before.store.path?
  ready : before.Ready → after.Ready

theorem Used.trans {items others : Table Text Text} {before between after : Stage} (first : Used items before between)
    (second : Used others between after) : Used others before after := by
  obtain ⟨⟨store, log, events, calls, rfl⟩, -, place, ready⟩ := first
  obtain ⟨⟨store, log, events, calls, rfl⟩, items, same, still⟩ := second
  exact ⟨⟨_, _, _, _, rfl⟩, items, same.trans place, fun held => still (ready held)⟩

open Effect

variable {fine : Prop} {stage : Stage}

/-! ## Calls -/

theorem used_setItem (ready : fine → stage.Ready) {key value : Text}
    (takes : fine → stage.store.Takes (stage.store.items.put key value)) :
    (setItem key value).Ends stage (fun _ after => Used (stage.store.items.put key value) stage after)
      (fun _ => ¬ fine) := by
  unfold Ends
  cases refused : stage.refusal stage.calls (.setItem key value) with
  | some fault =>
    rw [setItem, perform_bind_of_error (perform_call_refused refused)]
    intro held
    cases ((ready held).permits _ _).symm.trans refused
  | none =>
    cases read : stage.store.contents with
    | error fault =>
      have failed : items.perform (stage.called (.setItem key value)) =
          (.error fault, (stage.called (.setItem key value)).noted) := by
        rw [perform_items, store_called, read]
        rfl
      rw [setItem, perform_bind_of_ok (perform_call refused), perform_bind_of_error failed]
      intro held
      obtain ⟨malformed, there⟩ := (ready held).usable.contents
      cases there.symm.trans read
    | ok contents =>
      rw [perform_setItem refused read]
      apply ends_replaceItems
      · intro changed replaced
        refine ⟨⟨_, _, _, _, rfl⟩, Store.items_of_replace_put replaced, Store.path?_of_replace replaced,
          fun ready => ?_⟩
        have holds := (Store.holds_of_replace (ready.usable.distinct.put key value) replaced).1
        exact (ready.called (.setItem key value)).noted.holding holds
      · intro fault failed held
        have usable := (ready held).usable
        obtain ⟨written, same, _⟩ := usable.replace (takes held) (usable.distinct.put key value)
        cases same.symm.trans failed

theorem used_getItem (ready : fine → stage.Ready) (key : Text) :
    (getItem key).Ends stage
      (fun value after => value = stage.store.items.get? key ∧ Used stage.store.items stage after)
      (fun _ => ¬ fine) := by
  unfold Ends
  cases refused : stage.refusal stage.calls (.getItem key) with
  | some fault =>
    rw [getItem, perform_bind_of_error (perform_permit_refused refused)]
    intro held
    cases ((ready held).permits _ _).symm.trans refused
  | none =>
    rw [perform_getItem refused]
    cases read : stage.store.contents with
    | error fault =>
      intro held
      obtain ⟨malformed, there⟩ := (ready held).usable.contents
      cases there.symm.trans read
    | ok contents => exact ⟨rfl, ⟨_, _, _, _, rfl⟩, rfl, rfl, fun ready => ready.counted.noted⟩

theorem used_modify_setItem {change : Stage → Stage} (ready : fine → stage.Ready) {key value : Text}
    (takes : fine → stage.store.Takes (stage.store.items.kept stage.backed key value))
    (store : (change stage).store = stage.store) (backed : (change stage).backed = stage.backed)
    (refusal : (change stage).refusal = stage.refusal) :
    Ends (do
        modify change
        if (← get).backed then setItem key value) stage
      (fun _ after => Used (stage.store.items.kept stage.backed key value) (change stage) after)
      (fun _ => ¬ fine) := by
  apply ends_modify_bind
  apply ends_get_bind
  rw [← store] at takes
  rw [backed, ← store]
  unfold Table.kept at takes ⊢
  split at takes
  · next keeps =>
    rw [if_pos keeps, if_pos keeps]
    exact used_setItem (fun held => (ready held).of_eq store refusal) takes
  · next keeps =>
    rw [if_neg keeps, if_neg keeps]
    exact ⟨⟨_, _, _, _, rfl⟩, rfl, rfl, id⟩

theorem used_setText (ready : fine → stage.Ready) {text : Text}
    (takes : fine → stage.store.Takes (stage.store.items.kept stage.backed Output.textKey text)) :
    (setText text).Ends stage
      (fun _ after => Used (stage.store.items.kept stage.backed Output.textKey text)
        { stage with output := { stage.output with text } } after)
      (fun _ => ¬ fine) := used_modify_setItem ready takes rfl rfl rfl

theorem used_setImageUrl (ready : fine → stage.Ready) {imageUrl : Text}
    (takes : fine → stage.store.Takes (stage.store.items.kept stage.backed Output.imageKey imageUrl)) :
    (setImageUrl imageUrl).Ends stage
      (fun _ after => Used (stage.store.items.kept stage.backed Output.imageKey imageUrl)
        { stage with output := { stage.output with imageUrl } } after)
      (fun _ => ¬ fine) := used_modify_setItem ready takes rfl rfl rfl

/-- The host has a line for what it reads next, or the end of its input. -/
def Hears (stage : Stage) : Prop := ∀ fault, (takeLine stage.host.given).1 ≠ .undecodable fault

theorem exists_reply (hears : stage.Hears) (call : Call) : ∃ reply, stage.host.reply call = .ok reply := by
  have read : ∃ answer, (takeLine stage.host.given).1.read = .ok answer := by
    unfold Hears at hears
    cases given : (takeLine stage.host.given).1 with
    | line text => exact ⟨some text, rfl⟩
    | ended => exact ⟨none, rfl⟩
    | undecodable fault => exact absurd given (hears fault)
  cases call with
  | prompt message => exact read
  | notify message =>
    unfold Host.reply
    split
    · next lines console =>
      rw [Host.given, console] at read
      obtain ⟨answer, read⟩ := read
      exact ⟨(), by rw [read]; rfl⟩
    all_goals exact ⟨(), rfl⟩
  | hasOpener | getItem | setItem | removeItem | clear | reload | close => exact ⟨_, rfl⟩

theorem ends_onHost (ready : fine → stage.Ready) (hears : fine → stage.Hears) (call : Call) (onHost : call.OnHost) :
    call.effect.Ends stage (fun reply after => stage.host.reply call = .ok reply ∧ after = stage.hosted call)
      (fun _ => ¬ fine) := by
  unfold Ends
  cases refused : stage.refusal stage.calls call with
  | none =>
    rw [perform_onHost onHost refused]
    cases replied : stage.host.reply call with
    | ok reply => exact ⟨rfl, rfl⟩
    | error fault =>
      intro held
      obtain ⟨reply, same⟩ := exists_reply (hears held) call
      cases same.symm.trans replied
  | some fault =>
    rw [perform_onHost_refused onHost refused]
    intro held
    cases ((ready held).permits _ _).symm.trans refused

/-! ## Requests -/

def drew (stage : Stage) (count : Nat) : Stage := { stage with draws := stage.draws.past count }

/-- A property is set if there is a button, and only then is its value worked out. -/
theorem ends_styled {value : Effect Text} (property : String) (text : Text) (drawn : Bool)
    (valued : value.perform stage = (.ok text, stage.drew (if drawn then 1 else 0))) {fails : Stage → Prop} :
    (Request.styled property value).Ends stage
      (fun _ after => after = { stage.drew (if drawn && stage.control.isSome then 1 else 0) with
        control := stage.control.map (·.setStyle property text) })
      fails := by
  unfold Ends
  rw [Request.styled, setStyle, bind_assoc, perform_bind, perform_get]
  dsimp only
  obtain ⟨store, output, backed, control⟩ := stage
  cases control with
  | none =>
    rw [Option.isSome_none, Bool.and_false]
    rfl
  | some control =>
    rw [Option.isSome_some, Bool.and_true]
    dsimp only at valued ⊢
    rw [bind_assoc, perform_bind_of_ok valued]
    rfl

/-- No call of the request can fail: the store can be used and takes what is to be written, and a line can be read. -/
structure Able (stage : Stage) (request : Request) : Prop where
  ready : stage.Ready
  takes : stage.store.Takes (request.items stage.backed stage.store.items stage.answer)
  hears : stage.Hears

/-- What the request does is told beforehand, unless a call of it can fail. -/
def Foretold (stage : Stage) (request : Request) : Prop :=
  request.perform.Ends stage
    (fun _ after => Used (request.items stage.backed stage.store.items stage.answer) (stage.changed request) after)
    (fun _ => ¬ stage.Able request)

theorem foretold_setLocalStorage (key value : Option Text) : stage.Foretold (.setLocalStorage key value) := by
  have takes (able : stage.Able (.setLocalStorage key value)) := able.takes
  by_cases absent : key.getD "" = ""
  · simp only [Foretold, Request.perform, Request.items, if_pos absent]
    exact ⟨⟨_, _, _, _, rfl⟩, rfl, rfl, id⟩
  · simp only [Foretold, Request.perform, Request.items, if_neg absent] at takes ⊢
    apply (used_setItem Able.ready takes).bind
    exact fun _ _ used => used

theorem foretold_getLocalStorage (key : Option Text) : stage.Foretold (.getLocalStorage key) := by
  have takes (able : stage.Able (.getLocalStorage key)) := able.takes
  by_cases absent : key.getD "" = ""
  · simp only [Foretold, Request.perform, Request.items, changed, Request.text?, if_pos absent]
    exact ⟨⟨_, _, _, _, rfl⟩, rfl, rfl, id⟩
  · simp only [Foretold, Request.perform, Request.items, changed, Request.text?, if_neg absent] at takes ⊢
    apply (used_getItem Able.ready _).bind
    -- the text is written to a store that was read in between
    rintro _ _ ⟨rfl, ⟨store, log, events, calls, rfl⟩, same, place, still⟩
    dsimp only at same place
    have again (able : stage.Able (.getLocalStorage key)) := still (able.ready.of_eq rfl rfl)
    refine (used_setText again fun able => ?_).bind ?_
    · dsimp only
      rw [same]
      exact (takes able).of_path? place
    · rintro _ _ ⟨⟨store, log, events, calls, rfl⟩, items, moved, later⟩
      dsimp only at items moved
      rw [same] at items
      exact ⟨⟨_, _, _, _, rfl⟩, items, moved.trans place,
        fun held => (later ((still (held.of_eq rfl rfl)).of_eq rfl rfl)).of_eq rfl rfl⟩

theorem foretold_closeWindow : stage.Foretold .closeWindow := by
  apply (ends_onHost Able.ready Able.hears .hasOpener trivial).bind
  rintro opened _ ⟨replied, rfl⟩
  have asked : stage.host.openedByOther = opened := Except.ok.inj replied
  have again (able : stage.Able .closeWindow) : (stage.hosted .hasOpener).Ready := able.ready.of_eq rfl rfl
  simp only [changed, Request.call?, asked]
  cases opened with
  | true =>
    apply (ends_onHost again Able.hears .close trivial).bind
    rintro _ _ ⟨_, rfl⟩
    exact ⟨⟨_, _, _, _, rfl⟩, rfl, rfl, fun held => held.of_eq rfl rfl⟩
  | false =>
    apply (ends_onHost again Able.hears (.notify _) trivial).bind
    rintro _ _ ⟨_, rfl⟩
    exact ⟨⟨_, _, _, _, rfl⟩, rfl, rfl, fun held => held.of_eq rfl rfl⟩

theorem foretold_promptAndShow (message : Option Text) : stage.Foretold (.promptAndShow message) := by
  have takes (able : stage.Able (.promptAndShow message)) := able.takes
  apply (ends_onHost Able.ready Able.hears (.prompt _) trivial).bind
  rintro answer _ ⟨replied, rfl⟩
  have told : stage.answer = answer := Typed.text?_of_read replied
  have again (able : stage.Able (.promptAndShow message)) :
      (stage.hosted (.prompt (orElse message Request.promptFallback))).Ready := able.ready.of_eq rfl rfl
  by_cases empty : answer.getD "" = ""
  · simp only [Request.items, changed, Request.text?, Request.response?, told, if_pos empty]
    exact ⟨⟨_, _, _, _, rfl⟩, rfl, rfl, fun held => held.of_eq rfl rfl⟩
  · simp only [Request.items, changed, Request.text?, Request.response?, told, if_neg empty] at takes ⊢
    apply (used_setText again takes).bind
    rintro _ _ ⟨⟨store, log, events, calls, rfl⟩, items, place, later⟩
    exact ⟨⟨_, _, _, _, rfl⟩, items, place, fun held => (later (held.of_eq rfl rfl)).of_eq rfl rfl⟩

theorem foretold_changeButtonColor (color : Option Text) : stage.Foretold (.changeButtonColor color) := by
  have valued : (if color.getD "" = "" then do return colorText (← draw) else pure (color.getD "") :
      Effect Text).perform stage =
        (.ok (if color.getD "" = "" then (colorText stage.draws.next : Text) else color.getD ""),
          stage.drew (if decide (color.getD "" = "") then 1 else 0)) := by
    by_cases absent : color.getD "" = ""
    · rw [if_pos absent, if_pos absent, decide_eq_true absent]
      rfl
    · rw [if_neg absent, if_neg absent, decide_eq_false absent]
      rfl
  apply (ends_styled "backgroundColor" _ _ valued).mono
  rintro _ _ rfl
  exact ⟨⟨_, _, _, _, rfl⟩, rfl, rfl, fun held => held.of_eq rfl rfl⟩

theorem foretold (stage : Stage) (request : Request) : stage.Foretold request := by
  cases request with
  | alert message =>
    apply (ends_onHost Able.ready Able.hears (.notify _) trivial).bind
    rintro _ _ ⟨_, rfl⟩
    exact ⟨⟨_, _, _, _, rfl⟩, rfl, rfl, fun ready => ready.of_eq rfl rfl⟩
  | showText message =>
    apply (used_setText Able.ready Able.takes).bind
    exact fun _ _ used => used
  | showImage imageUrl =>
    apply (used_setImageUrl Able.ready Able.takes).bind
    exact fun _ _ used => used
  | refreshPage =>
    apply (ends_onHost Able.ready Able.hears .reload trivial).bind
    rintro _ _ ⟨_, rfl⟩
    exact ⟨⟨_, _, _, _, rfl⟩, rfl, rfl, fun ready => ready.of_eq rfl rfl⟩
  | setLocalStorage key value => exact foretold_setLocalStorage key value
  | getLocalStorage key => exact foretold_getLocalStorage key
  | increaseButtonSize =>
    apply (ends_styled "transform" Request.enlarged false rfl).mono
    rintro _ _ rfl
    exact ⟨⟨_, _, _, _, rfl⟩, rfl, rfl, id⟩
  | closeWindow => exact foretold_closeWindow
  | promptAndShow message => exact foretold_promptAndShow message
  | changeButtonColor color => exact foretold_changeButtonColor color
  | disableButton => exact ⟨⟨_, _, _, _, rfl⟩, rfl, rfl, fun ready => ready.of_eq rfl rfl⟩

end Stage

namespace Action

def request (action : Action) : Request := Request.of action.kind action.params

open Stage Effect

theorem used_dispatch (action : Action) (stage : Stage) :
    action.dispatch.Ends stage
      (fun _ after => Used (action.request.items stage.backed stage.store.items stage.answer)
        (stage.changed action.request) after)
      (fun _ => ¬ stage.Able action.request) := by
  apply (stage.foretold action.request).bind
  rintro outcome _ ⟨⟨store, log, events, calls, rfl⟩, items, place, ready⟩
  by_cases skipped : outcome = .skipped
  · simp only [if_pos skipped]
    exact ⟨⟨_, _, _, _, rfl⟩, items, place, fun held => (ready held).of_eq rfl rfl⟩
  · simp only [if_neg skipped]
    exact ⟨⟨_, _, _, _, rfl⟩, items, place, ready⟩

variable {action : Action} {stage after : Stage} {outcome : Outcome}

theorem used_of_dispatch (dispatched : action.dispatch.perform stage = (.ok outcome, after)) :
    Used (action.request.items stage.backed stage.store.items stage.answer) (stage.changed action.request) after := by
  have used := action.used_dispatch stage
  unfold Ends at used
  rwa [dispatched] at used

theorem exists_dispatch (able : stage.Able action.request) :
    ∃ outcome after, action.dispatch.perform stage = (.ok outcome, after) ∧
      Used (action.request.items stage.backed stage.store.items stage.answer) (stage.changed action.request) after := by
  have used := action.used_dispatch stage
  unfold Ends at used
  rcases dispatched : action.dispatch.perform stage with ⟨result, after⟩
  rw [dispatched] at used
  cases result with
  | ok outcome => exact ⟨outcome, after, rfl, used⟩
  | error fault => exact absurd able used

end Action

/-! ## Actions that cannot fail -/

def Typed.AllTexts (property : Text → Prop) : Typed → Prop
  | .line text => property text
  | .ended => True
  | .undecodable _ => False

theorem Typed.AllTexts.text? {property : Text → Prop} {typed : Typed} (all : typed.AllTexts property) :
    ∀ text ∈ typed.text?, property text := by
  intro text read
  cases typed <;> cases read
  exact all

theorem takeLine_cases (lines : List Typed) : (takeLine lines).1 ∈ lines ∨ (takeLine lines).1 = .ended := by
  cases lines with
  | nil => exact .inr rfl
  | cons line rest => exact .inl List.mem_cons_self

theorem takeLine_subset (lines : List Typed) : (takeLine lines).2 ⊆ lines := by
  cases lines with
  | nil => exact List.Subset.refl _
  | cons line rest => exact List.subset_cons_self ..

theorem Host.given_after_subset (host : Host) (call : Call) : (host.after call).given ⊆ host.given := by
  obtain ⟨surface, openedByOther, reloaded, closed⟩ := host
  cases surface with
  | page answers notifications prompts =>
    cases call with
    | prompt message =>
      have rest := takeLine_subset (answers.map Typed.ofAnswer)
      rwa [Typed.takeLine_map_ofAnswer] at rest
    | _ => exact List.Subset.refl _
  | console waits lines =>
    cases call with
    | prompt message => exact takeLine_subset lines
    | notify message =>
      cases waits with
      | true => exact takeLine_subset lines
      | false => exact List.Subset.refl _
    | _ => exact List.Subset.refl _

theorem Store.Takes.kept {store : Store} {items : Table Text Text} (takes : store.Takes items) {key text : Text}
    (named : store.Fits key) (valued : store.Fits text) (backed : Bool) :
    store.Takes (items.kept backed key text) := by
  unfold Table.kept
  split
  · exact takes.put named valued
  · exact takes

theorem Request.takes_items {store : Store} {held : Table Text Text} {action : Action} {answer : Option Text}
    (takes : store.Takes held) (given : action.params.AllTexts store.Fits) (answered : ∀ text ∈ answer, store.Fits text)
    (backed : Bool) : store.Takes (action.request.items backed held answer) := by
  have fixed (text : String) : store.Fits text := Store.fits_ofString store text
  have or_else {text? : Option Text} (fits : ∀ text ∈ text?, store.Fits text) (other : String) :
      store.Fits (text?.getD other) := Store.fits_getD fits (fixed other)
  unfold Action.request Request.of
  cases action.kind with
  | showText => exact takes.kept (fixed _) (or_else (given .message) _) backed
  | showImage => exact takes.kept (fixed _) (or_else (given .imageUrl) _) backed
  | setLocalStorage =>
    dsimp only [Request.items]
    split
    · exact takes
    · exact takes.put (or_else (given .key) _) (or_else (given .value) _)
  | getLocalStorage =>
    dsimp only [Request.items, Request.text?]
    split
    · next shown =>
      split at shown
      · cases shown
      · cases shown
        have named := (or_else (given .key) "").append (fixed ": ")
        exact takes.kept (fixed _) (named.append (or_else takes.get? _)) backed
    · exact takes
  | promptAndShow =>
    dsimp only [Request.items, Request.text?]
    split
    · next shown =>
      split at shown
      · cases shown
      · cases shown
        exact takes.kept (fixed _) ((fixed _).append (or_else answered _)) backed
    · exact takes
  | alert | refreshPage | increaseButtonSize | closeWindow | changeButtonColor | disableButton => exact takes

namespace Stage

/-- The store takes every text that an action can come upon there or be answered, and every line can be read. -/
structure Fluent (stage : Stage) : Prop where
  ready : stage.Ready
  items : stage.store.Takes stage.store.items
  given : ∀ typed ∈ stage.host.given, typed.AllTexts stage.store.Fits

variable {stage after : Stage} {action : Action}

theorem Fluent.able (fluent : stage.Fluent) (given : action.params.AllTexts stage.store.Fits) :
    stage.Able action.request := by
  have next : (takeLine stage.host.given).1.AllTexts stage.store.Fits := by
    rcases takeLine_cases stage.host.given with member | ended
    · exact fluent.given _ member
    · rw [ended]
      trivial
  refine ⟨fluent.ready, Request.takes_items fluent.items given next.text? _, fun fault same => ?_⟩
  rw [same] at next
  exact next

theorem Used.fluent {items : Table Text Text} {before after : Stage} (used : Used items before after)
    (ready : before.Ready) (takes : before.store.Takes items)
    (given : ∀ typed ∈ before.host.given, typed.AllTexts before.store.Fits) : after.Fluent := by
  obtain ⟨⟨store, log, events, calls, rfl⟩, same, place, still⟩ := used
  refine ⟨still ready, ?_, fun typed member => ?_⟩
  · rw [same]
    exact takes.of_path? place
  · have all := given typed member
    cases typed with
    | line text => exact Store.Fits.of_path? all place
    | ended => trivial
    | undecodable fault => exact all

theorem Fluent.used (fluent : stage.Fluent) (given : action.params.AllTexts stage.store.Fits)
    (used : Used (action.request.items stage.backed stage.store.items stage.answer)
      (stage.changed action.request) after) :
    after.Fluent := by
  apply used.fluent (fluent.ready.of_eq rfl rfl) (fluent.able given).takes
  intro typed member
  apply fluent.given
  dsimp only [changed] at member
  cases asked : action.request.call? stage.host.openedByOther with
  | none =>
    rw [asked] at member
    exact member
  | some call =>
    rw [asked] at member
    exact Host.given_after_subset _ call member

end Stage

end Pushbutton
