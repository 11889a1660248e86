import Pushbutton.Table
import Pushbutton.Text.Blank

/-! Files of settings: one binding of a name to a value on a line, with comments, quotes and references
to earlier values. -/

set_option autoImplicit false

namespace Pushbutton.EnvFile

/-- What one statement says. A comment binds nothing, and a name can stand without a value. -/
inductive Statement where
  | nothing
  | binding (name : String) (value : Option String)
  | unreadable (line : Nat)
  deriving DecidableEq, Repr

def isInlineBlank (c : Char) : Bool := Text.isBlank c && c != '\n'

def skipInline (text : List Char) : List Char := text.dropWhile isInlineBlank

def unixLines : List Char → List Char
  | '\r' :: '\n' :: rest => '\n' :: unixLines rest
  | '\r' :: rest => '\n' :: unixLines rest
  | c :: rest => c :: unixLines rest
  | [] => []

def skipExport (text : List Char) : List Char :=
  match text with
  | 'e' :: 'x' :: 'p' :: 'o' :: 'r' :: 't' :: c :: rest =>
    if isInlineBlank c then skipInline rest else text
  | _ => text

def upToQuote (quote : Char) : List Char → Option (List Char × List Char)
  | [] => none
  | '\\' :: c :: rest =>
    if c = quote then (upToQuote quote rest).map fun (inner, rest) => ('\\' :: c :: inner, rest)
    -- the character after the backslash can be a backslash before a quote
    else (upToQuote quote (c :: rest)).map fun (inner, rest) => ('\\' :: inner, rest)
  | c :: rest =>
    if c = quote then some ([], rest)
    else (upToQuote quote rest).map fun (inner, rest) => (c :: inner, rest)

def upToLastQuote (quote : Char) (text : List Char) : Option (List Char × List Char) :=
  match text.reverse.span (· != quote) with
  | (after, _ :: before) => some (before.reverse, after.reverse)
  | (_, []) => none

/-- An escaped quote does not close a value, unless no other one does. -/
def quotedValue (quote : Char) (text : List Char) : Option (List Char × List Char) :=
  match upToQuote quote text with
  | some found => some found
  | none => upToLastQuote quote text

def singleEscape? : Char → Option Char
  | '\\' => some '\\'
  | '\'' => some '\''
  | _ => none

def doubleEscape? : Char → Option Char
  | '\\' => some '\\'
  | '\'' => some '\''
  | '"' => some '"'
  | 'a' => some '\x07'
  | 'b' => some '\x08'
  | 'f' => some '\x0c'
  | 'n' => some '\n'
  | 'r' => some '\r'
  | 't' => some '\t'
  | 'v' => some '\x0b'
  | _ => none

def unescape (meaning? : Char → Option Char) : List Char → List Char
  | '\\' :: c :: rest =>
    match meaning? c with
    | some meant => meant :: unescape meaning? rest
    | none => '\\' :: unescape meaning? (c :: rest)
  | c :: rest => c :: unescape meaning? rest
  | [] => []

/-- A comment starts at a number sign after a blank. -/
def beforeComment (afterBlank : Bool) : List Char → List Char
  | [] => []
  | c :: rest =>
    if c = '#' && afterBlank then [] else c :: beforeComment (Text.isBlank c) rest

def unquotedValue (text : List Char) : List Char × List Char :=
  let (line, rest) := text.span (· != '\n')
  -- blanks before the value are gone, so a number sign at its start is part of it
  (Text.trimEnd Text.isBlank (beforeComment false line), rest)

def readValue (text : List Char) : Option (List Char × List Char) :=
  match text with
  | '\'' :: rest => (quotedValue '\'' rest).map fun (value, rest) => (unescape singleEscape? value, rest)
  | '"' :: rest => (quotedValue '"' rest).map fun (value, rest) => (unescape doubleEscape? value, rest)
  | text => some (unquotedValue text)

def readName (text : List Char) : Except Unit (Option (List Char) × List Char) :=
  match text with
  | '#' :: _ => .ok (none, text)
  | '\'' :: rest =>
    match rest.span (· != '\'') with
    | (name, _ :: rest) => if name.isEmpty then .error () else .ok (some name, rest)
    | (_, []) => .error ()
  | text =>
    let (name, rest) := text.span fun c => c != '=' && c != '#' && !Text.isBlank c
    if name.isEmpty then .error () else .ok (some name, rest)

def endLine (text : List Char) : Option (List Char) :=
  let text :=
    match skipInline text with
    | '#' :: rest => rest.dropWhile (· != '\n')
    | _ => text
  match skipInline text with
  | [] => some []
  | '\n' :: rest => some rest
  | _ => none

/-- A statement that cannot be read takes the rest of its line with it. -/
def dropLine (text : List Char) : List Char :=
  match text.dropWhile (· != '\n') with
  | _ :: rest => rest
  | [] => []

def readStatement (line : Nat) (text : List Char) : Statement × List Char :=
  match text.dropWhile Text.isBlank with
  | [] => (.nothing, [])
  | text =>
    let text := skipExport text
    match readName text with
    | .error () => (.unreadable line, dropLine text)
    | .ok (name?, text) =>
      let text := skipInline text
      let value? : Option (Option (List Char) × List Char) :=
        match text with
        | '=' :: rest =>
          (readValue (skipInline rest)).map fun (value, rest) => (some value, rest)
        | text => some (none, text)
      match value? with
      -- a quote is not closed: the equals sign is passed over, and the line given up
      | none =>
        match text with
        | _ :: rest => (.unreadable line, dropLine (skipInline rest))
        | [] => (.unreadable line, [])
      | some (value, text) =>
        match endLine text with
        | none => (.unreadable line, dropLine text)
        | some rest =>
          match name? with
          | none => (.nothing, rest)
          | some name => (.binding (String.ofList name) (value.map String.ofList), rest)

def readStatements : Nat → Nat → List Char → List Statement
  | 0, _, _ => []
  | _, _, [] => []
  | fuel + 1, line, text =>
    let (statement, rest) := readStatement line text
    let passed := (text.take (text.length - rest.length)).count '\n'
    statement :: readStatements fuel (line + passed) rest

def statements (text : String) : List Statement :=
  let characters := unixLines text.toList
  readStatements (characters.length + 1) 1 characters

def reference? (text : List Char) : Option (List Char × List Char × List Char) :=
  let (name, after) := text.span fun c => c != '}' && c != ':'
  match after with
  | '}' :: rest => some (name, [], rest)
  | ':' :: '-' :: rest =>
    match rest.span (· != '}') with
    | (fallback, _ :: rest) => some (name, fallback, rest)
    | (_, []) => none
  | _ => none

def referenced : List Char → List String
  | [] => []
  | '$' :: '{' :: rest =>
    String.ofList (rest.takeWhile fun c => c != '}' && c != ':') :: referenced rest
  | _ :: rest => referenced rest

/-- References in braces after a dollar sign are replaced by what they refer to. -/
def expand (lookup : String → Option (Option String)) : Nat → List Char → List Char
  | 0, text => text
  | _, [] => []
  | fuel + 1, c :: rest =>
    match c, rest with
    | '$', '{' :: inner =>
      match reference? inner with
      | some (name, fallback, rest) =>
        let value :=
          match lookup (String.ofList name) with
          | some value => (value.getD "").toList
          | none => fallback
        value ++ expand lookup fuel rest
      | none => c :: expand lookup fuel rest
    | _, _ => c :: expand lookup fuel rest

/-- Values refer to earlier ones of the file, and to the environment behind them. -/
def bind (environment : Table String String) (bound : Table String (Option String)) :
    Statement → Table String (Option String)
  | .binding name value =>
    let lookup (name : String) : Option (Option String) :=
      match bound.get? name with
      | some value => some value
      | none => (environment.get? name).map some
    bound.put name (value.map fun text =>
      String.ofList (expand lookup text.length text.toList))
  | .nothing | .unreadable _ => bound

def values (environment : Table String String) (text : String) : Table String (Option String) :=
  (statements text).foldl (bind environment) []

def unreadableLines (text : String) : List Nat :=
  (statements text).filterMap fun
    | .unreadable line => some line
    | _ => none

end Pushbutton.EnvFile
