import Pushbutton.Workflow.Params

/-! What one action asks for: its kind with only the parameters that the kind reads. -/

set_option autoImplicit false

namespace Pushbutton

inductive Request where
  | alert (message : Option Text)
  | showText (message : Option Text)
  | showImage (imageUrl : Option Text)
  | refreshPage
  | setLocalStorage (key value : Option Text)
  | getLocalStorage (key : Option Text)
  | increaseButtonSize
  | closeWindow
  | promptAndShow (message : Option Text)
  | changeButtonColor (color : Option Text)
  | disableButton
  deriving DecidableEq, Repr

namespace Request

def of (kind : Kind) (params : Params) : Request :=
  match kind with
  | .alert => .alert params.message
  | .showText => .showText params.message
  | .showImage => .showImage params.imageUrl
  | .refreshPage => .refreshPage
  | .setLocalStorage => .setLocalStorage params.key params.value
  | .getLocalStorage => .getLocalStorage params.key
  | .increaseButtonSize => .increaseButtonSize
  | .closeWindow => .closeWindow
  | .promptAndShow => .promptAndShow params.message
  | .changeButtonColor => .changeButtonColor params.color
  | .disableButton => .disableButton

theorem of_congr {kind : Kind} {params others : Params}
    (agree : ∀ field ∈ kind.reads, params.get field = others.get field) :
    of kind params = of kind others := by
  cases kind <;> simp_all [of, Kind.reads, Params.get]

end Request

end Pushbutton
