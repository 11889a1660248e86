import Pushbutton.Proofs.Stage.Effect

/-! How an effect ends: with a value or with a fault, and on which stage. -/

set_option autoImplicit false

namespace Pushbutton.Effect

variable {α β : Type}

/-- On this stage the effect comes to a value, or to a fault, and leaves a stage that goes with it. -/
def Ends (effect : Effect α) (stage : Stage) (gives : α → Stage → Prop) (fails : Stage → Prop) : Prop :=
  match effect.perform stage with
  | (.ok value, after) => gives value after
  | (.error _, after) => fails after

variable {stage : Stage} {gives : α → Stage → Prop} {fails : Stage → Prop}

theorem ends_pure {value : α} (given : gives value stage) : Ends (pure value) stage gives fails := given

theorem ends_fail {fault : Fault} (failed : fails stage) : Ends (fail fault) stage gives fails := failed

theorem ends_ofExcept {result : Except Fault α} (given : ∀ value, result = .ok value → gives value stage)
    (failed : ∀ fault, result = .error fault → fails stage) : Ends (ofExcept result) stage gives fails := by
  cases result with
  | ok value => exact given value rfl
  | error fault => exact failed fault rfl

theorem Ends.bind {effect : Effect α} {next : α → Effect β} {middle : α → Stage → Prop}
    {gives : β → Stage → Prop} (first : effect.Ends stage middle fails)
    (rest : ∀ value after, middle value after → (next value).Ends after gives fails) :
    Ends (effect >>= next) stage gives fails := by
  unfold Ends at first ⊢
  rw [perform_bind]
  cases performed : effect.perform stage with
  | mk result after =>
    rw [performed] at first
    cases result with
    | ok value => exact rest value after first
    | error fault => exact first

theorem Ends.mono {effect : Effect α} {others : α → Stage → Prop} (ends : effect.Ends stage gives fails)
    (weaker : ∀ value after, gives value after → others value after) : effect.Ends stage others fails := by
  unfold Ends at ends ⊢
  split at ends
  · next value after performed => simpa only [performed] using weaker value after ends
  · next after performed => simpa only [performed] using ends

theorem Ends.mono_fails {others : Stage → Prop} {effect : Effect α} (ends : effect.Ends stage gives fails)
    (weaker : ∀ after, fails after → others after) : effect.Ends stage gives others := by
  unfold Ends at ends ⊢
  split at ends
  · next value after performed => simpa only [performed] using ends
  · next after performed => simpa only [performed] using weaker after ends

theorem ends_get_bind {next : Stage → Effect α} (rest : (next stage).Ends stage gives fails) :
    Ends (get >>= next) stage gives fails := rest

theorem ends_modify_bind {change : Stage → Stage} {next : Unit → Effect α}
    (rest : (next ()).Ends (change stage) gives fails) : Ends (modify change >>= next) stage gives fails := rest

end Pushbutton.Effect

namespace Pushbutton.Stage

theorem ends_replaceItems {stage : Stage} {items : Table Text Text} {gives : Unit → Stage → Prop}
    {fails : Stage → Prop}
    (written : ∀ changed, stage.store.replace items = .ok changed → gives () { stage with store := changed })
    (failed : ∀ fault, stage.store.replace items = .error fault →
      fails { stage with store := stage.store.abandoned }) :
    (replaceItems items).Ends stage gives fails := by
  unfold Effect.Ends replaceItems
  simp only [Effect.perform_bind, Effect.perform_get]
  cases replaced : stage.store.replace items with
  | ok changed => exact written changed replaced
  | error fault => exact failed fault replaced

end Pushbutton.Stage
