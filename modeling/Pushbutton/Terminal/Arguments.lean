import Pushbutton.Text.Digit
import Pushbutton.Text.Quoted
import Pushbutton.Text.Split

/-! Reading the arguments of a command: options that start with a dash, in any order among the others. -/

set_option autoImplicit false

namespace Pushbutton.Terminal

/-- What an option does: it ends the reading, stands alone, or takes a value that is checked. -/
inductive Use where
  | help
  | version
  | flag
  | value (complaint? : String → Option String)

structure OptionRule where
  names : List String
  use : Use

structure PositionalRule where
  name : String
  complaint? : String → Option String := fun _ => none
  takesRest : Bool := false

structure Rules where
  program : String
  options : List OptionRule
  positionals : List PositionalRule

inductive Stop where
  | help (program : String)
  | version
  | misuse (program message : String)
  deriving DecidableEq, Repr

/-- What was read: values of options by the first of their names, values of the others in order, and
arguments that fit nowhere. -/
structure Reading where
  options : List (String × String) := []
  positionals : List (List String) := []
  extras : List String := []
  deriving DecidableEq, Repr

namespace OptionRule

def key (rule : OptionRule) : String := rule.names.headD ""

def label (rule : OptionRule) : String := "/".intercalate rule.names

def takesValue (rule : OptionRule) : Bool :=
  match rule.use with
  | .value _ => true
  | _ => false

end OptionRule

/-- A name that an argument writes, in full or in part, with the value attached to it. -/
structure Match where
  rule : OptionRule
  name : String
  /-- Whether an equals sign comes before the attached value. -/
  equals : Bool := false
  attached : Option String := none

inductive Role where
  | option (found : Match)
  | unknown
  | argument
  | dashes

structure Item where
  text : String
  role : Role

namespace Rules

def names (rules : Rules) : List (String × OptionRule) :=
  rules.options.flatMap fun rule => rule.names.map (·, rule)

def named? (rules : Rules) (name : String) : Option OptionRule :=
  (rules.names.find? fun entry => entry.1 == name).map (·.2)

def argumentError {α : Type} (rules : Rules) (name message : String) : Except Stop α :=
  .error (.misuse rules.program ("argument " ++ name ++ ": " ++ message))

def cut (text : String) : Option (String × String) :=
  match text.toList.span (· != '=') with
  | (name, _ :: value) => some (String.ofList name, String.ofList value)
  | (_, []) => none

def candidates (rules : Rules) (text : String) : List Match :=
  if text.startsWith "--" then
    let (start, attached) :=
      match cut text with
      | some (start, value) => (start, some value)
      | none => (text, none)
    (rules.names.filter fun entry => Text.startsWith start entry.1).map fun (name, rule) =>
      { rule, name, equals := attached.isSome, attached }
  else
    let short := String.ofList (text.toList.take 2)
    rules.names.filterMap fun (name, rule) =>
      if name = short then
        some { rule, name, attached := some (String.ofList (text.toList.drop 2)) }
      else if Text.startsWith text name then some { rule, name }
      else none

def isDigits (text : List Char) : Bool := !text.isEmpty && text.all Text.isDecimal

/-- A dash before digits, or before digits with a point; a line end may follow. -/
def looksNegative (text : String) : Bool :=
  match text.toList with
  | '-' :: rest =>
    let rest := if rest.getLast? == some '\n' then rest.dropLast else rest
    isDigits rest ||
      match rest.span Text.isDecimal with
      | (_, '.' :: fraction) => isDigits fraction
      | _ => false
  | _ => false

/-- What an argument is, as long as no pair of dashes stood before it. -/
def role (rules : Rules) (text : String) : Except Stop Role :=
  if !Text.startsWith "-" text then .ok .argument
  else
    match rules.named? text with
    | some rule => .ok (.option { rule, name := text })
    | none =>
      if text.length = 1 then .ok .argument
      else
        let written := (cut text).bind fun (name, value) =>
          (rules.named? name).map fun rule =>
            ({ rule, name, equals := true, attached := some value } : Match)
        match written with
        | some found => .ok (.option found)
        | none =>
          match rules.candidates text with
          | [found] => .ok (.option found)
          | [] =>
            -- a negative number is an argument, and so is a text that no option can be
            if looksNegative text || text.contains ' ' then .ok .argument else .ok .unknown
          | several =>
            .error (.misuse rules.program ("ambiguous option: " ++ text ++ " could match " ++
              ", ".intercalate (several.map (·.name))))

def classify (rules : Rules) : List String → Except Stop (List Item)
  | [] => .ok []
  | text :: rest =>
    if text = "--" then .ok (⟨text, .dashes⟩ :: rest.map (⟨·, .argument⟩))
    else do
      let role ← rules.role text
      return ⟨text, role⟩ :: (← classify rules rest)

end Rules

namespace Item

def isOption (item : Item) : Bool :=
  match item.role with
  | .option _ | .unknown => true
  | .argument | .dashes => false

def isArgument (item : Item) : Bool :=
  match item.role with
  | .argument => true
  | _ => false

def isDashes (item : Item) : Bool :=
  match item.role with
  | .dashes => true
  | _ => false

end Item

def takePositional (takesRest : Bool) (items : List Item) : Option (List Item × List Item) :=
  let (before, rest) := items.span Item.isDashes
  match rest with
  | [] => none
  | item :: rest =>
    if !item.isArgument then none
    else if takesRest then some (before ++ item :: rest, [])
    else
      let (after, rest) := rest.span Item.isDashes
      some (before ++ item :: after, rest)

/-- The first pair of dashes is no value, except where all that follows is taken. -/
def valuesOf (takesRest : Bool) (items : List Item) : List String :=
  let texts := items.map (·.text)
  if takesRest then texts else texts.erase "--"

namespace Rules

/-- As many positionals as there are arguments for; the ones still open and the items left. -/
def takePositionals (rules : Rules) (reading : Reading) :
    List PositionalRule → List Item → Except Stop (Reading × List PositionalRule × List Item)
  | [], items => .ok (reading, [], items)
  | rule :: open_, items =>
    match takePositional rule.takesRest items with
    | none => .ok (reading, rule :: open_, items)
    | some (taken, items) =>
      let values := valuesOf rule.takesRest taken
      match values.head?.bind rule.complaint? with
      | some complaint => rules.argumentError rule.name complaint
      | none =>
        takePositionals rules
          { reading with positionals := reading.positionals ++ [values] } open_ items

def give (rules : Rules) (rule : OptionRule) (value : String) (reading : Reading) :
    Except Stop Reading :=
  match rule.use with
  | .help => .error (.help rules.program)
  | .version => .error .version
  | .flag => .ok { reading with options := reading.options ++ [(rule.key, "")] }
  | .value complaint? =>
    match complaint? value with
    | some complaint => rules.argumentError rule.label complaint
    | none => .ok { reading with options := reading.options ++ [(rule.key, value)] }

def ignored {α : Type} (rules : Rules) (rule : OptionRule) (value : String) : Except Stop α :=
  rules.argumentError rule.label ("ignored explicit argument " ++ Text.quoted value)

def takeCluster (rules : Rules) (rule : OptionRule) (reading : Reading) :
    List Char → Except Stop Reading
  | [] => rules.give rule "" reading
  | '-' :: rest => rules.ignored rule (String.ofList ('-' :: rest))
  | c :: rest =>
    match rules.named? (String.ofList ['-', c]) with
    | none =>
      rules.give rule "" { reading with extras := reading.extras ++ [String.ofList ('-' :: c :: rest)] }
    | some next =>
      match rest with
      | '=' :: value => rules.ignored next (String.ofList value)
      | rest => takeCluster rules next reading rest

def takeOption (rules : Rules) (found : Match) (reading : Reading) (items : List Item) :
    Except Stop (Reading × List Item) :=
  match found.attached, found.rule.takesValue with
  | some value, true => do return (← rules.give found.rule value reading, items)
  | some value, false =>
    if found.name.startsWith "--" || found.equals || value == "" then rules.ignored found.rule value
    else do return (← rules.takeCluster found.rule reading value.toList, items)
  | none, false => do return (← rules.give found.rule "" reading, items)
  | none, true =>
    match items with
    | item :: rest =>
      if item.isArgument then do return (← rules.give found.rule item.text reading, rest)
      else rules.argumentError found.rule.label "expected one argument"
    | [] => rules.argumentError found.rule.label "expected one argument"

def readItems (rules : Rules) :
    Nat → Reading → List PositionalRule → List Item → Except Stop (Reading × List PositionalRule)
  | 0, reading, unread, items =>
    .ok ({ reading with extras := reading.extras ++ items.map (·.text) }, unread)
  | turns + 1, reading, unread, items =>
    match items with
    | [] => .ok (reading, unread)
    | item :: rest =>
      match item.role with
      | .option found => do
        let (reading, rest) ← rules.takeOption found reading rest
        readItems rules turns reading unread rest
      | .unknown =>
        readItems rules turns { reading with extras := reading.extras ++ [item.text] } unread rest
      | .argument | .dashes => do
        let (reading, unread, rest) ← rules.takePositionals reading unread (item :: rest)
        -- when no positional is open, the arguments up to the next option are left over
        if rest.length ≤ items.length - 1 then readItems rules turns reading unread rest
        else
          let (extra, rest) := items.span (!·.isOption)
          readItems rules turns
            { reading with extras := reading.extras ++ extra.map (·.text) } unread rest

def read (rules : Rules) (arguments : List String) : Except Stop Reading := do
  let items ← rules.classify arguments
  let (reading, unread) ← rules.readItems (items.length + 1) {} rules.positionals items
  if unread.isEmpty then return reading
  else
    .error (.misuse rules.program ("the following arguments are required: " ++
      ", ".intercalate (unread.map (·.name))))

end Rules

namespace Reading

def option? (reading : Reading) (key : String) : Option String :=
  (reading.options.reverse.find? fun entry => entry.1 == key).map (·.2)

def has (reading : Reading) (key : String) : Bool := (reading.option? key).isSome

def positional (reading : Reading) (index : Nat) : List String :=
  reading.positionals.getD index []

end Reading

end Pushbutton.Terminal
