/-! Tables from names to values that keep the order in which the names were first written. -/

set_option autoImplicit false

namespace Pushbutton

abbrev Table (κ α : Type) := List (κ × α)

namespace Table

variable {κ α : Type} [DecidableEq κ]

def get? : Table κ α → κ → Option α
  | [], _ => none
  | (name, value) :: rest, key => if name = key then some value else get? rest key

/-- A name already present keeps its place and takes the new value. -/
def put : Table κ α → κ → α → Table κ α
  | [], key, value => [(key, value)]
  | (name, old) :: rest, key, value =>
    if name = key then (name, value) :: rest else (name, old) :: put rest key value

def erase : Table κ α → κ → Table κ α
  | [], _ => []
  | (name, value) :: rest, key =>
    if name = key then rest else (name, value) :: erase rest key

def contains (table : Table κ α) (key : κ) : Bool := (table.get? key).isSome

/-- Later entries override earlier ones of the same name. -/
def ofList (entries : List (κ × α)) : Table κ α :=
  entries.foldl (fun table entry => table.put entry.1 entry.2) []

theorem get?_put (table : Table κ α) (key other : κ) (value : α) :
    (table.put key value).get? other = if key = other then some value else table.get? other := by
  induction table with
  | nil => simp [put, get?]
  | cons entry rest ih =>
    obtain ⟨name, old⟩ := entry
    by_cases same : name = key
    · subst same
      by_cases found : name = other <;> simp [put, get?, found]
    · by_cases found : name = other
      · subst found
        simp [put, get?, same, Ne.symm same]
      · simp [put, get?, same, found, ih]

theorem put_get? (table : Table κ α) (key : κ) (value : α) (held : table.get? key = some value) :
    table.put key value = table := by
  induction table with
  | nil => simp [get?] at held
  | cons entry rest ih =>
    obtain ⟨name, old⟩ := entry
    by_cases same : name = key
    · simp_all [put, get?]
    · simp_all [put, get?]

theorem erase_eq_self (table : Table κ α) (key : κ) (absent : table.get? key = none) :
    table.erase key = table := by
  induction table with
  | nil => rfl
  | cons entry rest ih =>
    obtain ⟨name, old⟩ := entry
    by_cases same : name = key
    · simp_all [get?]
    · simp_all [get?, erase]

end Table

end Pushbutton
