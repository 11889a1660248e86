import Pushbutton.Proofs.Stage.Effect

/-! One effect on two stages. What is related before is related afterwards, and the effect comes to the same. -/

set_option autoImplicit false

namespace Pushbutton

def Only {σ : Type} (property : σ → Prop) (first second : σ) : Prop := first = second ∧ property first

namespace Effect

variable {α β : Type} {related before after : Stage → Stage → Prop}

def Avoids (lost : Fault → Prop) (result : Except Fault α) : Prop := ∀ fault, result = .error fault → ¬ lost fault

instance {lost : Fault → Prop} [DecidablePred lost] (result : Except Fault α) : Decidable (Avoids lost result) :=
  match result with
  | .ok _ => .isTrue nofun
  | .error fault =>
    decidable_of_iff (¬ lost fault) ⟨fun apart _ same => Except.error.inj same ▸ apart, fun avoids => avoids fault rfl⟩

/-- On stages that are related before, the effect comes to the same, and it leaves stages that are related after. Where
it ends with one of the faults, nothing is said. -/
def LeadsUnless (lost : Fault → Prop) (before after : Stage → Stage → Prop) (effect : Effect α) : Prop :=
  ∀ first second, before first second →
    Avoids lost (effect.perform first).1 → Avoids lost (effect.perform second).1 →
      (effect.perform first).1 = (effect.perform second).1 ∧
        after (effect.perform first).2 (effect.perform second).2

def Leads (before after : Stage → Stage → Prop) (effect : Effect α) : Prop :=
  ∀ first second, before first second →
    (effect.perform first).1 = (effect.perform second).1 ∧
      after (effect.perform first).2 (effect.perform second).2

def TwinUnless (lost : Fault → Prop) (related : Stage → Stage → Prop) (effect : Effect α) : Prop :=
  effect.LeadsUnless lost related related

def Twin (related : Stage → Stage → Prop) (effect : Effect α) : Prop := effect.Leads related related

theorem Leads.unless {effect : Effect α} (leads : effect.Leads before after) (lost : Fault → Prop) :
    effect.LeadsUnless lost before after := fun first second held _ _ => leads first second held

theorem leads_iff {effect : Effect α} : effect.Leads before after ↔ effect.LeadsUnless (fun _ => False) before after :=
  ⟨fun leads => leads.unless _, fun leads first second held => leads first second held (fun _ _ => id) fun _ _ => id⟩

theorem Twin.unless {effect : Effect α} (twin : effect.Twin related) (lost : Fault → Prop) :
    effect.TwinUnless lost related := Leads.unless twin lost

theorem twin_pure (value : α) : Twin related (pure value : Effect α) := fun _ _ held => ⟨rfl, held⟩

theorem twin_ofExcept (result : Except Fault α) : Twin related (ofExcept result) := by
  intro first second held
  rw [perform_ofExcept, perform_ofExcept]
  exact ⟨rfl, held⟩

theorem twin_modify {change : Stage → Stage}
    (keeps : ∀ first second, related first second → related (change first) (change second)) :
    Twin related (modify change : Effect Unit) := fun first second held => ⟨rfl, keeps first second held⟩

theorem Avoids.of_bind {lost : Fault → Prop} {effect : Effect α} {next : α → Effect β} {stage : Stage}
    (avoids : Avoids lost ((effect >>= next).perform stage).1) : Avoids lost (effect.perform stage).1 := by
  intro fault failed
  have failing : effect.perform stage = (.error fault, (effect.perform stage).2) := Prod.ext failed rfl
  exact avoids fault (congrArg Prod.fst (perform_bind_of_error failing next))

/-- The first effect may end in a fault, so all that it leads to has to hold by then. -/
theorem LeadsUnless.bind {lost : Fault → Prop} {effect : Effect α} {next : α → Effect β}
    (leads : effect.LeadsUnless lost before after) (rest : ∀ value, (next value).TwinUnless lost after) :
    (effect >>= next).LeadsUnless lost before after := by
  intro first second held avoids avoidsToo
  obtain ⟨same, later⟩ := leads first second held avoids.of_bind avoidsToo.of_bind
  cases one : effect.perform first with
  | mk result left =>
    cases two : effect.perform second with
    | mk other right =>
      rw [one, two] at same later
      cases same
      cases result with
      | ok value =>
        rw [perform_bind_of_ok one] at avoids ⊢
        rw [perform_bind_of_ok two] at avoidsToo ⊢
        exact rest value left right later avoids avoidsToo
      | error fault =>
        rw [perform_bind_of_error one, perform_bind_of_error two]
        exact ⟨rfl, later⟩

theorem Leads.bind {effect : Effect α} {next : α → Effect β} (leads : effect.Leads before after)
    (rest : ∀ value, (next value).Twin after) : (effect >>= next).Leads before after :=
  leads_iff.mpr ((leads_iff.mp leads).bind fun value => leads_iff.mp (rest value))

theorem TwinUnless.bind {lost : Fault → Prop} {effect : Effect α} {next : α → Effect β}
    (twin : effect.TwinUnless lost related) (rest : ∀ value, (next value).TwinUnless lost related) :
    TwinUnless lost related (effect >>= next) := LeadsUnless.bind twin rest

theorem Twin.bind {effect : Effect α} {next : α → Effect β} (twin : effect.Twin related)
    (rest : ∀ value, (next value).Twin related) : Twin related (effect >>= next) := Leads.bind twin rest

theorem twinUnless_pure {lost : Fault → Prop} (value : α) : TwinUnless lost related (pure value : Effect α) :=
  (twin_pure value).unless lost

theorem TwinUnless.ite {lost : Fault → Prop} {condition : Prop} [Decidable condition] {yes no : Effect α}
    (left : condition → yes.TwinUnless lost related) (right : ¬ condition → no.TwinUnless lost related) :
    TwinUnless lost related (if condition then yes else no) := by
  split
  · next holds => exact left holds
  · next fails => exact right fails

theorem Twin.ite {condition : Prop} [Decidable condition] {yes no : Effect α}
    (left : condition → yes.Twin related) (right : ¬ condition → no.Twin related) :
    Twin related (if condition then yes else no) := by
  split
  · next holds => exact left holds
  · next fails => exact right fails

theorem twin_get_bind {next : Stage → Effect α}
    (rest : ∀ first second, related first second →
      ((next first).perform first).1 = ((next second).perform second).1 ∧
        related ((next first).perform first).2 ((next second).perform second).2) :
    Twin related (get >>= next) := rest

theorem twinUnless_get_bind {lost : Fault → Prop} {next : Stage → Effect α}
    (rest : ∀ first second, related first second →
      Avoids lost ((next first).perform first).1 → Avoids lost ((next second).perform second).1 →
      ((next first).perform first).1 = ((next second).perform second).1 ∧
        related ((next first).perform first).2 ((next second).perform second).2) :
    TwinUnless lost related (get >>= next) := rest

theorem twin_only_iff {property : Stage → Prop} {effect : Effect α} :
    effect.Twin (Only property) ↔ effect.Keeps property := by
  constructor
  · intro twin stage holds
    exact (twin stage stage ⟨rfl, holds⟩).2.2
  · rintro keeps stage _ ⟨rfl, holds⟩
    exact ⟨rfl, rfl, keeps stage holds⟩

def KeepsUnless (lost : Fault → Prop) (property : Stage → Prop) (effect : Effect α) : Prop :=
  ∀ stage, property stage → Avoids lost (effect.perform stage).1 → property (effect.perform stage).2

theorem Keeps.unless {property : Stage → Prop} {effect : Effect α} (keeps : effect.Keeps property)
    (lost : Fault → Prop) : effect.KeepsUnless lost property := fun stage holds _ => keeps stage holds

theorem twinUnless_only_iff {lost : Fault → Prop} {property : Stage → Prop} {effect : Effect α} :
    effect.TwinUnless lost (Only property) ↔ effect.KeepsUnless lost property := by
  constructor
  · intro twin stage holds avoids
    exact (twin stage stage ⟨rfl, holds⟩ avoids avoids).2.2
  · rintro keeps stage _ ⟨rfl, holds⟩ avoids _
    exact ⟨rfl, rfl, keeps stage holds avoids⟩

theorem twinUnless_modify_setItem {lost : Fault → Prop} {change : Stage → Stage} {key value : Text}
    (keeps : ∀ first second, related first second → related (change first) (change second))
    (backed : ∀ first second, related first second → first.backed = second.backed)
    (setItem : (Stage.setItem key value).TwinUnless lost related) :
    TwinUnless lost related (do
      modify change
      if (← get).backed then Stage.setItem key value) := by
  apply ((twin_modify keeps).unless lost).bind
  intro _
  apply twinUnless_get_bind
  intro first second held
  rw [backed first second held]
  exact TwinUnless.ite (fun _ => setItem) (fun _ => twinUnless_pure ()) first second held

theorem twin_modify_setItem {change : Stage → Stage} {key value : Text}
    (keeps : ∀ first second, related first second → related (change first) (change second))
    (backed : ∀ first second, related first second → first.backed = second.backed)
    (setItem : (Stage.setItem key value).Twin related) :
    Twin related (do
      modify change
      if (← get).backed then Stage.setItem key value) :=
  leads_iff.mpr (twinUnless_modify_setItem keeps backed (setItem.unless _))

theorem keepsUnless_modify_setItem {lost : Fault → Prop} {property : Stage → Prop} {change : Stage → Stage}
    {key value : Text} (keeps : ∀ stage, property stage → property (change stage))
    (setItem : (Stage.setItem key value).KeepsUnless lost property) :
    KeepsUnless lost property (do
      modify change
      if (← get).backed then Stage.setItem key value) := by
  refine twinUnless_only_iff.mp (twinUnless_modify_setItem ?_ ?_ (twinUnless_only_iff.mpr setItem))
  · rintro first _ ⟨rfl, holds⟩
    exact ⟨rfl, keeps first holds⟩
  · rintro first _ ⟨rfl, holds⟩
    rfl

theorem keeps_iff {property : Stage → Prop} {effect : Effect α} :
    effect.Keeps property ↔ effect.KeepsUnless (fun _ => False) property :=
  ⟨fun keeps => keeps.unless _, fun keeps stage holds => keeps stage holds fun _ _ => id⟩

theorem keeps_modify_setItem {property : Stage → Prop} {change : Stage → Stage} {key value : Text}
    (keeps : ∀ stage, property stage → property (change stage))
    (setItem : (Stage.setItem key value).Keeps property) :
    Keeps property (do
      modify change
      if (← get).backed then Stage.setItem key value) :=
  keeps_iff.mpr (keepsUnless_modify_setItem keeps (setItem.unless _))

end Effect

end Pushbutton
