import Mathlib.Data.List.Induction
import Pushbutton.Log.Setup

/-! Logging that is set up again and again. A call that is refused has put its stream in place already and leaves the
levels; so the stream is that of the last call, and the levels are those of the last call that was not refused. -/

set_option autoImplicit false

namespace Pushbutton

theorem Table.get?_foldl_put {κ α : Type} [DecidableEq κ] (names : List κ) (value : α) (table : Table κ α) (key : κ) :
    Table.get? (names.foldl (fun table name => table.put name value) table) key =
      if key ∈ names then some value else table.get? key := by
  induction names generalizing table with
  | nil => rfl
  | cons name rest ih =>
    rw [List.foldl_cons, ih, Table.get?_put]
    by_cases later : key ∈ rest
    · rw [if_pos later, if_pos (List.mem_cons_of_mem _ later)]
    · simp only [List.mem_cons, later, or_false, if_false, eq_comm]

namespace Log

def level? (text : String) : Option Nat := levels.get? (Text.upperCase text)

namespace Setup

def ownLevel? (setup : Setup) (logger : String) : Option Nat :=
  (setup.own.get? logger).bind fun level => if level = 0 then none else some level

theorem effective_eq (setup : Setup) (logger : String) :
    setup.effective logger = ((ancestry logger).findSome? setup.ownLevel?).getD setup.root := rfl

variable {setup start : Setup} {level : String} {stream : Nat}

/-! ## One call -/

theorem configure_of_unknown (setup : Setup) (stream : Nat) (unknown : level? level = none) :
    setup.configure level stream = (.error ⟨Text.upperCase level⟩, { setup with streams := [stream] }) := by
  rw [level?] at unknown
  simp only [configure, unknown]

theorem configure_of_known (setup : Setup) (stream : Nat) {root : Nat} (known : level? level = some root) :
    setup.configure level stream = (.ok (), ⟨[stream], root,
      quiet.foldl (fun own logger => own.put logger (max root 30)) setup.own⟩) := by
  rw [level?] at known
  simp only [configure, known]

theorem fst_configure (setup : Setup) (level : String) (stream : Nat) :
    (setup.configure level stream).1 =
      if (level? level).isSome then .ok () else .error ⟨Text.upperCase level⟩ := by
  cases named : level? level with
  | none => rw [configure_of_unknown setup stream named]; rfl
  | some root => rw [configure_of_known setup stream named]; rfl

theorem streams_configure (setup : Setup) (level : String) (stream : Nat) :
    (setup.configure level stream).2.streams = [stream] := by
  cases named : level? level with
  | none => rw [configure_of_unknown setup stream named]
  | some root => rw [configure_of_known setup stream named]

/-! ## Many calls -/

def configureAll (setup : Setup) (calls : List (String × Nat)) : Setup :=
  calls.foldl (fun setup call => (setup.configure call.1 call.2).2) setup

/-- The level of the last call that was not refused. -/
def lastLevel? (calls : List (String × Nat)) : Option Nat := (calls.filterMap fun call => level? call.1).getLast?

theorem configureAll_concat (setup : Setup) (calls : List (String × Nat)) (last : String × Nat) :
    setup.configureAll (calls ++ [last]) = ((setup.configureAll calls).configure last.1 last.2).2 := by
  simp [configureAll]

theorem lastLevel?_concat (calls : List (String × Nat)) (last : String × Nat) :
    lastLevel? (calls ++ [last]) = (level? last.1).or (lastLevel? calls) := by
  unfold lastLevel?
  cases named : level? last.1 <;> simp [named]

/-- What is left by calls the last of which that was not refused came to this level. -/
structure Levelled (start : Setup) (last : Option Nat) (setup : Setup) : Prop where
  root : setup.root = last.getD start.root
  own : ∀ logger, setup.ownLevel? logger = if logger ∈ quiet then last.map (max · 30) else none

theorem Levelled.configure {last : Option Nat} (levelled : Levelled start last setup) (level : String) (stream : Nat) :
    Levelled start ((level? level).or last) (setup.configure level stream).2 := by
  cases named : level? level with
  | none =>
    rw [configure_of_unknown setup stream named, Option.none_or]
    exact ⟨levelled.root, levelled.own⟩
  | some root =>
    rw [configure_of_known setup stream named, Option.some_or]
    refine ⟨rfl, fun logger => ?_⟩
    rw [ownLevel?, Table.get?_foldl_put]
    by_cases hushed : logger ∈ quiet
    -- a level of zero would leave the logger without one of its own
    · have positive : max root 30 ≠ 0 := by omega
      rw [if_pos hushed, if_pos hushed, Option.bind_some, if_neg positive, Option.map_some]
    · have before := levelled.own logger
      rw [if_neg hushed] at before
      rw [if_neg hushed, if_neg hushed]
      exact before

theorem levelled_configureAll (unset : ∀ logger, start.ownLevel? logger = none) (calls : List (String × Nat)) :
    Levelled start (lastLevel? calls) (start.configureAll calls) := by
  induction calls using List.reverseRecOn with
  | nil => exact ⟨rfl, fun logger => (unset logger).trans (ite_self none).symm⟩
  | append_singleton calls last ih =>
    rw [configureAll_concat, lastLevel?_concat]
    exact ih.configure last.1 last.2

/-! ## Records -/

theorem findSome?_quiet (names : List String) (own : Option Nat) :
    (names.findSome? fun name => if name ∈ quiet then own else none) =
      if ∃ name ∈ names, name ∈ quiet then own else none := by
  induction names with
  | nil => rfl
  | cons name rest ih =>
    rw [List.findSome?_cons, ih]
    by_cases hushed : name ∈ quiet <;> cases own <;> simp [hushed]

/-- Loggers at or below the quiet ones take their level after these, and all others that of the root. -/
theorem Levelled.effective {last : Option Nat} (levelled : Levelled start last setup) (logger : String) :
    setup.effective logger =
      if ∃ name ∈ ancestry logger, name ∈ quiet then (last.map (max · 30)).getD start.root
      else last.getD start.root := by
  rw [effective_eq, funext levelled.own, findSome?_quiet, levelled.root]
  split
  · cases last <;> rfl
  · rfl

/-- However often logging is set up, and whichever of the calls are refused: records go to the stream of the last call
alone, and the levels are those of the last call that named a level. A record is written if its level is above zero
and not below the one that counts for its logger. -/
theorem configureAll_settles (unset : ∀ logger, start.ownLevel? logger = none) (earlier : List (String × Nat))
    (level : String) (stream : Nat) :
    let calls := earlier ++ [(level, stream)]
    let after := start.configureAll calls
    ((start.configureAll earlier).configure level stream).1 =
      (if (level? level).isSome then .ok () else .error ⟨Text.upperCase level⟩) ∧
    after.streams = [stream] ∧
    after.root = (lastLevel? calls).getD start.root ∧
    (∀ logger, after.ownLevel? logger = if logger ∈ quiet then (lastLevel? calls).map (max · 30) else none) ∧
    (∀ logger, after.effective logger =
      if ∃ name ∈ ancestry logger, name ∈ quiet then ((lastLevel? calls).map (max · 30)).getD start.root
      else (lastLevel? calls).getD start.root) ∧
    ∀ (logger : String) (record : Int),
      after.targets logger record = if 0 < record ∧ after.effective logger ≤ record then [stream] else [] := by
  intro calls after
  have levelled : Levelled start (lastLevel? calls) after := levelled_configureAll unset calls
  have streams : after.streams = [stream] := by
    rw [show after = _ from configureAll_concat start earlier (level, stream)]
    exact streams_configure _ level stream
  refine ⟨fst_configure _ level stream, streams, levelled.root, levelled.own, levelled.effective, ?_⟩
  intro logger record
  rw [targets, streams]

/-- Two handlers are there to begin with. The first call and the last are refused. -/
theorem configureAll_settles_refused :
    let start : Setup := { streams := [7, 8] }
    let after := start.configureAll ([("loud", 0), ("Debug", 1)] ++ [("Level 10", 2)])
    (∀ logger, start.ownLevel? logger = none) ∧ after.streams = [2] ∧ after.root = 10 ∧
      after.ownLevel? "httpx" = some 30 ∧ after.targets "httpx.pool" 20 = [] ∧ after.targets "app" 10 = [2] := by
  intro start after
  have unset : ∀ logger, start.ownLevel? logger = none := fun _ => rfl
  obtain ⟨-, streams, root, own, effective, targets⟩ :=
    configureAll_settles unset [("loud", 0), ("Debug", 1)] "Level 10" 2
  have pool : after.effective "httpx.pool" = 30 := (effective _).trans (by decide)
  have app : after.effective "app" = 10 := (effective _).trans (by decide)
  refine ⟨unset, streams, root.trans (by decide), (own _).trans (by decide), ?_, ?_⟩
  · exact (targets _ _).trans (if_neg (by rw [pool]; decide))
  · exact (targets _ _).trans (if_pos (by rw [app]; decide))

/-- The root has the level zero, and a record of that level is not written. -/
theorem targets_level_zero :
    let after := ({} : Setup).configureAll [("notset", 0)]
    after.streams = [0] ∧ after.effective "app" = 0 ∧ after.targets "app" 0 ≠ [0] := by
  decide

end Setup

end Log

end Pushbutton
