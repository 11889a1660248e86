import Pushbutton.Stage

/-! Effects one after another: what a sequence does is told from what its parts do. -/

set_option autoImplicit false

namespace Pushbutton.Effect

variable {α β : Type}

@[simp] theorem perform_pure (value : α) (stage : Stage) : perform (pure value) stage = (.ok value, stage) := rfl

@[simp] theorem perform_get (stage : Stage) : perform get stage = (.ok stage, stage) := rfl

@[simp] theorem perform_set (after stage : Stage) : perform (set after) stage = (.ok (), after) := rfl

@[simp] theorem perform_modify (change : Stage → Stage) (stage : Stage) :
    perform (modify change) stage = (.ok (), change stage) := rfl

@[simp] theorem perform_ofExcept (result : Except Fault α) (stage : Stage) :
    (ofExcept result).perform stage = (result, stage) := by
  cases result <;> rfl

theorem perform_bind (effect : Effect α) (next : α → Effect β) (stage : Stage) :
    (effect >>= next).perform stage =
      match effect.perform stage with
      | (.ok value, after) => (next value).perform after
      | (.error fault, after) => (.error fault, after) := by
  have sequence (rest : Except Fault α → StateM Stage (Except Fault β)) :
      (effect.run >>= rest) stage = rest (effect.perform stage).1 (effect.perform stage).2 := rfl
  rw [perform, ExceptT.run_bind, sequence]
  rcases effect.perform stage with ⟨result, after⟩
  cases result <;> rfl

theorem perform_bind_of_ok {effect : Effect α} {value : α} {stage after : Stage}
    (performed : effect.perform stage = (.ok value, after)) (next : α → Effect β) :
    (effect >>= next).perform stage = (next value).perform after := by
  rw [perform_bind, performed]

theorem perform_bind_of_error {effect : Effect α} {fault : Fault} {stage after : Stage}
    (performed : effect.perform stage = (.error fault, after)) (next : α → Effect β) :
    (effect >>= next).perform stage = (.error fault, after) := by
  rw [perform_bind, performed]

/-- Whatever an effect comes to, it does not break the property of the stage. -/
def Keeps (property : Stage → Prop) (effect : Effect α) : Prop :=
  ∀ stage, property stage → property (effect.perform stage).2

section

variable {property : Stage → Prop}

theorem keeps_pure (value : α) : Keeps property (pure value : Effect α) := fun _ holds => holds

theorem keeps_ofExcept (result : Except Fault α) : Keeps property (ofExcept result) := by
  intro stage holds
  rw [perform_ofExcept]
  exact holds

theorem keeps_modify {change : Stage → Stage} (keeps : ∀ stage, property stage → property (change stage)) :
    Keeps property (modify change : Effect Unit) := keeps

theorem Keeps.bind {effect : Effect α} {next : α → Effect β} (first : effect.Keeps property)
    (rest : ∀ value, (next value).Keeps property) : Keeps property (effect >>= next) := by
  intro stage holds
  have middle := first stage holds
  rw [perform_bind]
  split
  · next value after performed => rw [performed] at middle; exact rest value after middle
  · next performed => rw [performed] at middle; exact middle

/-- Only the values that the first effect can give on such a stage matter to the second. -/
theorem keeps_get_bind {next : Stage → Effect β}
    (rest : ∀ stage, property stage → property ((next stage).perform stage).2) :
    Keeps property (get >>= next) := rest

theorem Keeps.ite {condition : Prop} [Decidable condition] {yes no : Effect α} (left : yes.Keeps property)
    (right : no.Keeps property) : Keeps property (if condition then yes else no) := by
  split
  · exact left
  · exact right

end

end Pushbutton.Effect
