import Pushbutton.Json.Basic
import Pushbutton.Table

/-! What a run leaves visible: two texts, an image and whether the button is disabled; and the live button. -/

set_option autoImplicit false

namespace Pushbutton

structure Output where
  text : Text := ""
  response : Text := ""
  imageUrl : Text := ""
  disabled : Bool := false
  deriving DecidableEq, Repr

namespace Output

def textKey : Text := "OutputText"

def imageKey : Text := "OutputImage"

def toJson (output : Output) : Json :=
  .obj [("last_text", .str output.text), ("last_prompt_response", .str output.response),
    ("last_image_url", .str output.imageUrl), ("control_disabled", .bool output.disabled)]

end Output

structure Control where
  label : Text := ""
  style : Table String Text := []
  deriving DecidableEq, Repr

namespace Control

def setStyle (control : Control) (property : String) (value : Text) : Control :=
  { control with style := control.style.put property value }

def sortedStyle (control : Control) : List (String × Text) :=
  control.style.mergeSort fun a b => decide (a.1 ≤ b.1)

def render (control : Control) (output : Output) : List Text :=
  ["[" ++ control.label ++ "]" ++ (if output.disabled then " (disabled)" else "")] ++
  control.sortedStyle.map (fun (property, value) => "  " ++ property ++ ": " ++ value) ++
  (if output.text = "" then [] else [output.text]) ++
  (if output.imageUrl = "" then [] else ["image: " ++ output.imageUrl])

end Control

end Pushbutton
