import Mathlib.Data.List.Induction
import Pushbutton.Proofs.Run.Course
import Pushbutton.Proofs.Text.Numeral

/-! The button and the image after a run in which no action fails. The last action that writes has its way, and a
number is drawn for each colour that has to be made up, and for nothing else. -/

set_option autoImplicit false

namespace Pushbutton

/-! ## Properties of a button -/

theorem Draws.past_past (draws : Draws) (first second : Nat) :
    (draws.past first).past second = draws.past (first + second) := by
  rw [past, past, past, Nat.add_assoc]

def Table.valueOf? (name : String) (entry : String × Text) : Option Text :=
  if entry.1 = name then some entry.2 else none

def Control.dressed (control : Control) (entries : List (String × Text)) : Control :=
  entries.foldl (fun control entry => control.setStyle entry.1 entry.2) control

namespace Control

theorem dressed_append (control : Control) (entries more : List (String × Text)) :
    control.dressed (entries ++ more) = (control.dressed entries).dressed more := List.foldl_append

theorem label_dressed (control : Control) (entries : List (String × Text)) :
    (control.dressed entries).label = control.label := by
  induction entries using List.reverseRecOn with
  | nil => rfl
  | append_singleton entries entry ih =>
    rw [dressed_append]
    exact ih

theorem get?_dressed (control : Control) (entries : List (String × Text)) (name : String) :
    (control.dressed entries).style.get? name =
      (entries.filterMap (Table.valueOf? name)).getLast?.or (control.style.get? name) := by
  induction entries using List.reverseRecOn with
  | nil => rfl
  | append_singleton entries entry ih =>
    rw [dressed_append, getLast?_filterMap_concat, Option.or_assoc, ← ih, Table.valueOf?]
    refine (Table.get?_put _ _ _ _).trans ?_
    split <;> rfl

end Control

namespace Action

def draws (action : Action) : Bool := action.request.draws

/-- The properties that actions set one after another, with numbers to make up colours from. -/
def styles (draws : Draws) : List Action → List (String × Text)
  | [] => []
  | action :: rest =>
    (action.request.style? draws.next).toList ++
      styles (draws.past (if action.draws then 1 else 0)) rest

theorem styles_append (draws : Draws) (first second : List Action) :
    styles draws (first ++ second) = styles draws first ++ styles (draws.past (first.countP Action.draws)) second := by
  induction first generalizing draws with
  | nil => rfl
  | cons action rest ih =>
    rw [List.cons_append, styles, styles, ih, List.append_assoc, Draws.past_past, List.countP_cons, Nat.add_comm]

def lastStyle? (name : String) (draws : Draws) (actions : List Action) : Option Text :=
  ((styles draws actions).filterMap (Table.valueOf? name)).getLast?

variable {name : String} {draws : Draws}

theorem lastStyle?_concat (actions : List Action) (action : Action) :
    lastStyle? name draws (actions ++ [action]) =
      ((action.request.style? (draws.past (actions.countP Action.draws)).next).bind (Table.valueOf? name)).or
        (lastStyle? name draws actions) := by
  rw [lastStyle?, styles_append, styles, styles, List.append_nil]
  cases styled : action.request.style? (draws.past (actions.countP Action.draws)).next with
  | none => simp [lastStyle?]
  | some entry => exact getLast?_filterMap_concat _ _ _

theorem style?_transform (action : Action) (number : Nat) :
    (action.request.style? number).bind (Table.valueOf? "transform") =
      if action.kind = .increaseButtonSize then some ("scale(1.2)" : Text) else none := by
  unfold request
  cases action.kind <;> simp [Request.of, Request.style?, Table.valueOf?, Request.enlarged]

theorem style?_background (action : Action) (number : Nat) :
    (action.request.style? number).bind (Table.valueOf? "backgroundColor") =
      if action.kind = .changeButtonColor then
        some (if action.params.color.getD "" = "" then (colorText number : Text) else action.params.color.getD "")
      else none := by
  unfold request
  cases action.kind <;> simp [Request.of, Request.style?, Table.valueOf?]

theorem style?_other (action : Action) (number : Nat) (first : name ≠ "transform") (second : name ≠ "backgroundColor") :
    (action.request.style? number).bind (Table.valueOf? name) = none := by
  unfold request
  cases action.kind <;> simp [Request.of, Request.style?, Table.valueOf?, first.symm, second.symm]

theorem disables_iff (action : Action) : action.request.disables = true ↔ action.kind = .disableButton := by
  unfold request
  cases action.kind <;> simp [Request.of, Request.disables]

theorem imageUrl?_eq (action : Action) :
    action.request.imageUrl? = if action.kind = .showImage then some (action.params.imageUrl.getD "") else none := by
  unfold request
  cases action.kind <;> simp [Request.of, Request.imageUrl?]

theorem lastStyle?_append_of_silent (actions : List Action) {later : List Action}
    (silent : ∀ action ∈ later, ∀ number, (action.request.style? number).bind (Table.valueOf? name) = none) :
    lastStyle? name draws (actions ++ later) = lastStyle? name draws actions := by
  induction later using List.reverseRecOn with
  | nil => rw [List.append_nil]
  | append_singleton later action ih =>
    obtain ⟨others, here⟩ := List.forall_mem_append.mp silent
    rw [← List.append_assoc, lastStyle?_concat, here _ (List.mem_singleton_self _), Option.none_or, ih others]

theorem lastStyle?_of_silent {actions : List Action}
    (silent : ∀ action ∈ actions, ∀ number, (action.request.style? number).bind (Table.valueOf? name) = none) :
    lastStyle? name draws actions = none := lastStyle?_append_of_silent [] silent

theorem lastStyle?_transform (draws : Draws) (actions : List Action) :
    lastStyle? "transform" draws actions =
      if ∃ action ∈ actions, action.kind = .increaseButtonSize then some ("scale(1.2)" : Text) else none := by
  induction actions using List.reverseRecOn with
  | nil => simp [lastStyle?, styles]
  | append_singleton actions action ih =>
    rw [lastStyle?_concat, style?_transform, ih]
    simp only [List.mem_append, List.mem_singleton, or_and_right, exists_or, exists_eq_left]
    by_cases here : action.kind = .increaseButtonSize
    · simp [here]
    · simp [here]

end Action

/-! ## What actions make of the button -/

namespace Stage

/-- The button and the image as these actions make them, one after another. -/
structure Dressed (start : Stage) (acted : List Action) (stage : Stage) : Prop where
  disabled : stage.output.disabled = (start.output.disabled || acted.any (·.request.disables))
  imageUrl : stage.output.imageUrl = (acted.filterMap (·.request.imageUrl?)).getLast?.getD start.output.imageUrl
  control : stage.control = start.control.map (·.dressed (Action.styles start.draws acted))
  draws : stage.draws = if start.control.isSome then start.draws.past (acted.countP Action.draws) else start.draws

theorem dressed_turns (start : Stage) : Turns (Dressed start) where
  dispatch := by
    rintro acted action before _ ⟨disabled, imageUrl, control, draws⟩ ⟨⟨store, log, events, calls, rfl⟩, -, -, -⟩
    refine ⟨?_, ?_, ?_, ?_⟩
    · simp [changed, disabled, Bool.or_comm, Bool.or_left_comm]
    · rw [getLast?_filterMap_concat, Option.getD_or, ← imageUrl]
      rfl
    · have styles := Action.styles_append start.draws acted [action]
      rw [Action.styles, Action.styles, List.append_nil] at styles
      rw [styles]
      dsimp only [changed]
      rw [control]
      cases held : start.control with
      | none => cases action.request.style? before.draws.next <;> rfl
      | some button =>
        rw [held, Option.isSome_some, if_pos rfl] at draws
        rw [draws]
        cases action.request.style? (start.draws.past (acted.countP Action.draws)).next with
        | none => simp
        | some entry => simp [Control.dressed]
    · dsimp only [changed]
      rw [control, draws, Option.isSome_map]
      cases start.control.isSome with
      | false => simp [Draws.past]
      | true =>
        rw [Bool.and_true, if_pos rfl, if_pos rfl, Draws.past_past, List.countP_append, List.countP_singleton]
        rfl
  told := fun _ _ ⟨disabled, imageUrl, control, draws⟩ => ⟨disabled, imageUrl, control, draws⟩

end Stage

structure Control.Decided (draws : Draws) (acted : List Action) (control after : Control) : Prop where
  label : after.label = control.label
  transform : after.style.get? "transform" =
    if ∃ action ∈ acted, action.kind = .increaseButtonSize then some ("scale(1.2)" : Text)
    else control.style.get? "transform"
  /-- A colour that is not given is made up from the next number after those of earlier actions. -/
  background : ∀ before last later, acted = before ++ last :: later → last.kind = .changeButtonColor →
    (∀ action ∈ later, action.kind ≠ .changeButtonColor) →
    let color : Text := last.params.color.getD ""
    after.style.get? "backgroundColor" =
      some (if color = "" then (colorText (draws.past (before.countP Action.draws)).next : Text) else color)
  sameBackground : (∀ action ∈ acted, action.kind ≠ .changeButtonColor) →
    after.style.get? "backgroundColor" = control.style.get? "backgroundColor"
  others : ∀ property, property ≠ "transform" → property ≠ "backgroundColor" →
    after.style.get? property = control.style.get? property

theorem Control.decided (control : Control) (draws : Draws) (acted : List Action) :
    control.Decided draws acted (control.dressed (Action.styles draws acted)) := by
  have last (name : String) : _ = (Action.lastStyle? name draws acted).or (control.style.get? name) :=
    control.get?_dressed (Action.styles draws acted) name
  refine ⟨control.label_dressed _, ?_, ?_, fun silent => ?_, fun name first second => ?_⟩
  · rw [last, Action.lastStyle?_transform]
    split <;> rfl
  · rintro before final later rfl changes silent
    have after : ∀ action ∈ later, ∀ number,
        (action.request.style? number).bind (Table.valueOf? "backgroundColor") = none := by
      intro action member number
      rw [action.style?_background, if_neg (silent action member)]
    rw [last, List.append_cons, Action.lastStyle?_append_of_silent _ after, Action.lastStyle?_concat,
      Action.style?_background, if_pos changes]
    rfl
  · rw [last, Action.lastStyle?_of_silent, Option.none_or]
    intro action member number
    rw [action.style?_background, if_neg (silent action member)]
  · rw [last, Action.lastStyle?_of_silent, Option.none_or]
    exact fun action _ number => action.style?_other number first second

namespace Stage

/-- Of what actions write, the last has its way. -/
structure Decided (start : Stage) (acted : List Action) (stage : Stage) : Prop where
  disabled : stage.output.disabled = true ↔
    start.output.disabled = true ∨ ∃ action ∈ acted, action.kind = .disableButton
  imageUrl : ∀ before last later, acted = before ++ last :: later → last.kind = .showImage →
    (∀ action ∈ later, action.kind ≠ .showImage) → stage.output.imageUrl = last.params.imageUrl.getD ""
  sameImage : (∀ action ∈ acted, action.kind ≠ .showImage) → stage.output.imageUrl = start.output.imageUrl
  /-- A number is drawn for each colour that is made up, and for nothing else. -/
  control : ∀ control, start.control = some control → ∃ after, stage.control = some after ∧
    control.Decided start.draws acted after ∧ stage.draws = start.draws.past (acted.countP Action.draws)
  bare : start.control = none → stage.control = none ∧ stage.draws = start.draws

theorem Dressed.decided {start stage : Stage} {acted : List Action} (dressed : Dressed start acted stage) :
    Decided start acted stage where
  disabled := by
    simp only [dressed.disabled, Bool.or_eq_true, List.any_eq_true, Action.disables_iff]
  imageUrl := by
    rintro before last later rfl shows silent
    have other : later.filterMap (·.request.imageUrl?) = [] := by
      simpa [Action.imageUrl?_eq] using silent
    rw [dressed.imageUrl, List.append_cons, List.filterMap_append, other, List.append_nil, getLast?_filterMap_concat,
      last.imageUrl?_eq, if_pos shows]
    rfl
  sameImage silent := by
    have none : acted.filterMap (·.request.imageUrl?) = [] := by
      simpa [Action.imageUrl?_eq] using silent
    rw [dressed.imageUrl, none]
    rfl
  control control held := by
    have draws := dressed.draws
    rw [held] at draws
    refine ⟨_, ?_, control.decided start.draws acted, draws⟩
    rw [dressed.control, held]
    rfl
  bare absent := by
    rw [dressed.control, dressed.draws, absent]
    exact ⟨rfl, rfl⟩

end Stage

/-! ## Runs -/

theorem colorText_eq {number : Nat} (below : number < 2 ^ 24) :
    colorText number = "#" ++ String.ofList (Text.hexDigits 6 number) := by
  have length : Text.hexLength number ≤ 6 := by
    have bits : number.log2 < 24 := by
      by_cases zero : number = 0
      · rw [zero]
        decide
      · exact (Nat.log2_lt zero).mpr below
    rw [Text.hexLength]
    omega
  rw [colorText, Text.hexPadded, Nat.max_eq_left length]

/-- The last action that writes decides. In a run in which no call raises a fault, the actions up to the first reload
are dispatched, and after any number of steps, and after the whole run, see `Decided` for what becomes of the button,
the image and the numbers to draw. -/
theorem Stage.run_decided {delay : Seconds} {workflow : Workflow} {stage last : Stage} {report : Report}
    (ran : (Stage.run delay workflow).perform stage = (.ok report, last))
    (unfailing : Step.Unfailing report.steps) :
    let acted := Action.throughReload workflow.actions
    let after count := (performer delay).midway workflow count stage
    report.steps = acted.mapIdx (Action.toStep stage.control.isSome) ∧
    Decided stage acted last ∧ (∀ count, Decided stage (acted.take count) (after count)) ∧
    (∀ earlier later, earlier ≤ later → (after earlier).output.disabled = true →
      (after later).output.disabled = true ∧ last.output.disabled = true) ∧
    ∀ number, number < 2 ^ 24 →
      let digits := Text.hexDigits 6 number
      colorText number = "#" ++ String.ofList digits ∧ digits.length = 6 ∧
        ∀ digit ∈ digits, digit ∈ "0123456789abcdef".toList := by
  intro acted after
  have start : Dressed stage [] stage :=
    ⟨by simp, rfl, by cases stage.control <;> rfl, by simp [Draws.past]⟩
  have whole := ((dressed_turns stage).run ran unfailing start).decided
  have midway (count : Nat) : Decided stage (acted.take count) (after count) :=
    ((dressed_turns stage).midway ran unfailing start count).decided
  refine ⟨Stage.steps_eq ran unfailing, whole, midway, fun earlier later least disabled => ?_, fun number below => ?_⟩
  · have disables := (midway earlier).disabled.mp disabled
    refine ⟨(midway later).disabled.mpr ?_, whole.disabled.mpr ?_⟩
    · refine disables.imp_right ?_
      rintro ⟨action, member, kind⟩
      exact ⟨action, List.take_subset_take_left acted least member, kind⟩
    · refine disables.imp_right ?_
      rintro ⟨action, member, kind⟩
      exact ⟨action, List.mem_of_mem_take member, kind⟩
  · exact ⟨colorText_eq below, Text.length_hexDigits _ _, fun digit => Text.mem_hexDigits⟩

/-- Colours are made up, given and made up again, and one more is wanted after the page was reloaded. -/
def painting : Workflow where
  actions := [{ id := "a", kind := .changeButtonColor },
    { id := "b", kind := .changeButtonColor, params := { color := some "red" } },
    { id := "c", kind := .changeButtonColor, params := { color := some "" } }, { id := "d", kind := .disableButton },
    { id := "e", kind := .refreshPage }, { id := "f", kind := .changeButtonColor }]

def painted : Report where
  steps := [⟨0, "a", .changeButtonColor, .completed⟩, ⟨1, "b", .changeButtonColor, .completed⟩,
    ⟨2, "c", .changeButtonColor, .completed⟩, ⟨3, "d", .disableButton, .completed⟩,
    ⟨4, "e", .refreshPage, .terminated⟩]

def easel : Stage where
  store := .memory []
  control := some { label := "Go", style := [("color", "x")] }
  draws := ⟨fun number => 255 + number, 7⟩

theorem Stage.run_decided_painting :
    let ran := (Stage.run (.whole 0) painting).perform easel
    ran = (.ok painted, ran.2) ∧ Step.Unfailing painted.steps ∧ ran.2.output.disabled = true ∧
      ∃ button, ran.2.control = some button ∧ button.style.get? "backgroundColor" = some ("#000107" : Text) ∧
        button.style.get? "color" = some ("x" : Text) ∧ ran.2.draws.used = 9 := by
  intro _
  have ran : (Stage.run (.whole 0) painting).perform easel = (.ok painted, _) := Prod.ext (by decide +kernel) rfl
  have unfailing : Step.Unfailing painted.steps := by
    unfold Step.Unfailing
    decide
  obtain ⟨-, ⟨disabled, -, -, control, -⟩, -⟩ := run_decided ran unfailing
  obtain ⟨button, held, decided, draws⟩ := control _ rfl
  have colour := decided.background [_, _] _ [_, _] rfl rfl (by decide)
  exact ⟨ran, unfailing, disabled.mpr (.inr (by decide)), button, held, colour.trans (by decide +kernel),
    decided.others "color" (by decide) (by decide), congrArg Draws.used draws⟩

end Pushbutton
