/-! The kinds of actions, and which parameters each of them reads and needs. -/

set_option autoImplicit false

namespace Pushbutton

inductive Kind where
  | alert
  | showText
  | showImage
  | refreshPage
  | setLocalStorage
  | getLocalStorage
  | increaseButtonSize
  | closeWindow
  | promptAndShow
  | changeButtonColor
  | disableButton
  deriving DecidableEq, Repr

inductive Field where
  | message
  | text
  | imageUrl
  | key
  | value
  | color
  deriving DecidableEq, Repr

namespace Field

def all : List Field := [.message, .text, .imageUrl, .key, .value, .color]

def name : Field → String
  | .message => "message"
  | .text => "text"
  | .imageUrl => "imageUrl"
  | .key => "key"
  | .value => "value"
  | .color => "color"

theorem mem_all (field : Field) : field ∈ all := by cases field <;> decide

end Field

namespace Kind

def all : List Kind :=
  [.alert, .showText, .showImage, .refreshPage, .setLocalStorage, .getLocalStorage,
    .increaseButtonSize, .closeWindow, .promptAndShow, .changeButtonColor, .disableButton]

def name : Kind → String
  | .alert => "alert"
  | .showText => "showText"
  | .showImage => "showImage"
  | .refreshPage => "refreshPage"
  | .setLocalStorage => "setLocalStorage"
  | .getLocalStorage => "getLocalStorage"
  | .increaseButtonSize => "increaseButtonSize"
  | .closeWindow => "closeWindow"
  | .promptAndShow => "promptAndShow"
  | .changeButtonColor => "changeButtonColor"
  | .disableButton => "disableButton"

def label : Kind → String
  | .alert => "Alert"
  | .showText => "Show Text"
  | .showImage => "Show Image"
  | .refreshPage => "Refresh Page"
  | .setLocalStorage => "Set LocalStorage"
  | .getLocalStorage => "Get LocalStorage"
  | .increaseButtonSize => "Increase Button Size"
  | .closeWindow => "Close Window"
  | .promptAndShow => "Prompt and Show"
  | .changeButtonColor => "Change Button Color"
  | .disableButton => "Disable Button"

def reads : Kind → List Field
  | .alert | .showText | .promptAndShow => [.message]
  | .showImage => [.imageUrl]
  | .setLocalStorage => [.key, .value]
  | .getLocalStorage => [.key]
  | .changeButtonColor => [.color]
  | .refreshPage | .increaseButtonSize | .closeWindow | .disableButton => []

/-- The parameters without which an action of the kind has no effect. -/
def needs : Kind → List Field
  | .setLocalStorage | .getLocalStorage => [.key]
  | _ => []

def ofName? (name : String) : Option Kind := all.find? fun kind => kind.name == name

theorem ofName?_name (kind : Kind) : ofName? kind.name = some kind := by cases kind <;> rfl

theorem name_of_ofName? {name : String} {kind : Kind} (found : ofName? name = some kind) :
    kind.name = name := by
  simpa using List.find?_some found

end Kind

end Pushbutton
