import Mathlib.Data.List.TakeWhile
import Pushbutton.Proofs.Json.Escape
import Pushbutton.Proofs.Json.Layout
import Pushbutton.Proofs.Json.WholeNumber
import Pushbutton.Proofs.Table

/-! Reading texts back: a plain value is read from its text in every layout, whatever follows the text.
Of any text, the objects that are read have distinct names. -/

set_option autoImplicit false

namespace Pushbutton.Json

mutual

/-- Values whose texts are exact: no binary number, no whole number that is too long, and no name twice in
an object. -/
def Plain : Json → Prop
  | .null | .bool _ | .str _ => True
  | .int n => (Text.natDigits n.natAbs).length ≤ Text.digitLimit
  | .float _ => False
  | .arr items => PlainItems items
  | .obj members => Table.Distinct members ∧ PlainMembers members

def PlainItems : List Json → Prop
  | [] => True
  | item :: items => Plain item ∧ PlainItems items

def PlainMember : Text × Json → Prop
  | (_, value) => Plain value

def PlainMembers : List (Text × Json) → Prop
  | [] => True
  | member :: members => PlainMember member ∧ PlainMembers members

end

theorem plainItems_iff {items : List Json} : PlainItems items ↔ ∀ item ∈ items, item.Plain := by
  induction items with
  | nil => simp [PlainItems]
  | cons item items ih => rw [PlainItems, ih, List.forall_mem_cons]

theorem plainMembers_iff {members : List (Text × Json)} :
    PlainMembers members ↔ ∀ member ∈ members, member.2.Plain := by
  induction members with
  | nil => simp [PlainMembers]
  | cons member members ih => rw [PlainMembers, ih, List.forall_mem_cons, PlainMember]

/-! ## Blanks -/

theorem skip_append {blanks : List CodePoint} (blank : ∀ c ∈ blanks, isSpace c = true) (text : List CodePoint) :
    skip (blanks ++ text) = skip text :=
  List.dropWhile_append_of_pos blank

theorem skip_cons {c : CodePoint} (solid : isSpace c = false) (text : List CodePoint) :
    skip (c :: text) = c :: text := by
  simp [skip, solid]

theorem skip_mark {blanks : List CodePoint} (blank : ∀ c ∈ blanks, isSpace c = true) {mark : CodePoint}
    (solid : isSpace mark = false) (rest : List CodePoint) : skip (blanks ++ mark :: rest) = mark :: rest := by
  rw [skip_append blank, skip_cons solid]

theorem endsNumber_cons {c : CodePoint} (text : List CodePoint)
    (ends : c.char?.any Text.isDigit = false ∧ c ≠ '.' ∧ c ≠ 'e' ∧ c ≠ 'E') : EndsNumber (c :: text) := by
  intro head same
  rw [← Option.some.inj same]
  exact ends

theorem endsNumber_append {blanks : List CodePoint} (blank : ∀ c ∈ blanks, isSpace c = true) {text : List CodePoint}
    (ends : EndsNumber text) : EndsNumber (blanks ++ text) := by
  cases blanks with
  | nil => exact ends
  | cons c blanks =>
    have space := blank c List.mem_cons_self
    simp only [isSpace, Bool.or_eq_true, beq_iff_eq] at space
    rcases space with ((rfl | rfl) | rfl) | rfl <;>
      exact endsNumber_cons _ (by decide)

theorem endsNumber_nil : EndsNumber [] := by
  intro c member
  cases member

/-! ## Values -/

section

variable (layout : Layout)

theorem endsNumber_laidItems (depth : Nat) (items : List Json) (rest : List CodePoint) :
    EndsNumber (laidItems layout depth items ++ rest) := by
  cases items with
  | nil =>
    rw [laidItems, List.append_assoc]
    exact endsNumber_append (layout.closing_blank depth) (endsNumber_cons _ (by decide))
  | cons item items =>
    rw [laidItems]
    exact endsNumber_cons _ (by decide)

theorem endsNumber_laidMembers (depth : Nat) (members : List (Text × Json)) (rest : List CodePoint) :
    EndsNumber (laidMembers layout depth members ++ rest) := by
  cases members with
  | nil =>
    rw [laidMembers, List.append_assoc]
    exact endsNumber_append (layout.closing_blank depth) (endsNumber_cons _ (by decide))
  | cons member members =>
    rw [laidMembers]
    exact endsNumber_cons _ (by decide)

/-- A text starts with neither a blank, nor the end of a list, nor a byte order mark. -/
theorem laid_eq_cons (depth : Nat) {value : Json} (plain : value.Plain) :
    ∃ (first : CodePoint) (rest : List CodePoint),
      laid layout depth value = first :: rest ∧ isSpace first = false ∧ first ≠ ']' ∧
      first ≠ '\uFEFF' := by
  cases value with
  | null => exact ⟨'n', _, rfl, by decide⟩
  | bool value => cases value <;> exact ⟨_, _, rfl, by decide⟩
  | int n =>
    obtain ⟨first, rest, shape, start⟩ := intDigits_eq_cons n
    have solid : "-0123456789".toList.all fun c => isSpace c = false ∧ CodePoint.char c ≠ ']' ∧
        CodePoint.char c ≠ '\uFEFF' := by decide
    simp only [List.all_eq_true, decide_eq_true_eq] at solid
    exact ⟨first, rest.map .char, by rw [laid, writeScalar, shape, List.map_cons], solid first start⟩
  | float value => exact plain.elim
  | str value => exact ⟨'"', _, rfl, by decide⟩
  | arr items => cases items <;> exact ⟨'[', _, rfl, by decide⟩
  | obj members => cases members <;> exact ⟨'\x7b', _, rfl, by decide⟩

theorem skip_laid (depth : Nat) {value : Json} (plain : value.Plain) {blanks : List CodePoint}
    (blank : ∀ c ∈ blanks, isSpace c = true) (rest : List CodePoint) :
    skip (blanks ++ laid layout depth value ++ rest) = laid layout depth value ++ rest := by
  obtain ⟨first, tail, shape, solid, _⟩ := laid_eq_cons layout depth plain
  rw [List.append_assoc, skip_append blank, shape, List.cons_append, skip_cons solid]

theorem readValue_string (fuel : Nat) (text : Text) (rest : List CodePoint) :
    readValue (fuel + 1) (writeString text ++ rest) = .ok (.str text, rest) := by
  simp only [writeString, List.cons_append, List.append_assoc, List.nil_append, readValue,
    readString_written]
  rfl

theorem readValue_word {text rest : List CodePoint} {value : Json} {first : CodePoint} (fuel : Nat)
    (read : readWord (first :: text) = .ok (value, rest)) (string : first ≠ '"') (list : first ≠ '[')
    (object : first ≠ '\x7b') : readValue (fuel + 1) (first :: text) = .ok (value, rest) := by
  rw [readValue.eq_def]
  split <;> simp_all

theorem skip_writeString (text : Text) (rest : List CodePoint) :
    skip (writeString text ++ rest) = writeString text ++ rest := by
  rw [writeString, List.cons_append, skip_cons (by decide)]

theorem readMembers_member (fuel : Nat) (before : Table Text Json) (name : Text) {value : Json}
    {text after : List CodePoint} (read : readValue fuel (skip text) = .ok (value, after)) :
    (∀ rest, skip after = .char '\x7d' :: rest →
      readMembers (fuel + 1) before (writeString name ++ .char ':' :: text) = .ok (before.put name value, rest)) ∧
    (∀ rest, skip after = .char ',' :: rest →
      readMembers (fuel + 1) before (writeString name ++ .char ':' :: text) =
        readMembers fuel (before.put name value) (skip rest)) := by
  constructor <;>
  · intro rest next
    simp only [writeString, List.cons_append, List.append_assoc, List.nil_append,
      readMembers.eq_def (fuel + 1), readString_written, bind, Except.bind, pure, Except.pure]
    rw [skip_cons (by decide)]
    simp only [read, next]

/- Induction on the fuel. Two characters of a text pay for the two calls that an item or a member costs, and
a member is read together with the ones before it, which have other names. -/
mutual

theorem readValue_laid : ∀ (value : Json) (depth fuel : Nat) (rest : List CodePoint), value.Plain →
    EndsNumber rest → 2 * (laid layout depth value).length ≤ fuel →
    readValue fuel (laid layout depth value ++ rest) = .ok (value, rest)
  | value, depth, 0, rest, plain, ends, enough => by
    obtain ⟨first, tail, shape, _⟩ := laid_eq_cons layout depth plain
    simp [shape] at enough
  | .null, depth, fuel + 1, rest, _, _, _ => rfl
  | .bool true, depth, fuel + 1, rest, _, _, _ => rfl
  | .bool false, depth, fuel + 1, rest, _, _, _ => rfl
  | .int n, depth, fuel + 1, rest, plain, ends, _ => by
    obtain ⟨first, tail, shape, start⟩ := intDigits_eq_cons n
    have word := readWord_intDigits n ends plain
    have other : "-0123456789".toList.all fun c => CodePoint.char c ≠ '"' ∧ CodePoint.char c ≠ '[' ∧
        CodePoint.char c ≠ '\x7b' := by decide
    simp only [List.all_eq_true, decide_eq_true_eq] at other
    obtain ⟨string, list, object⟩ := other first start
    rw [laid, writeScalar, shape, List.map_cons, List.cons_append]
    rw [shape, List.map_cons, List.cons_append] at word
    exact readValue_word fuel word string list object
  | .str text, depth, fuel + 1, rest, _, _, _ => by
    rw [laid, writeScalar]
    exact readValue_string fuel text rest
  | .arr [], depth, fuel + 1, rest, _, _, _ => rfl
  | .arr (item :: items), depth, fuel + 1, rest, plain, _, enough => by
    simp only [laid, List.length_cons, List.length_append] at enough
    obtain ⟨fuel, rfl⟩ : ∃ less, fuel = less + 1 := ⟨fuel - 1, by omega⟩
    -- the first item does not look like the end of an empty list
    obtain ⟨first, tail, shape, _, other, _⟩ := laid_eq_cons layout (depth + 1) plain.1
    have item_read := readValue_laid item (depth + 1) fuel (laidItems layout depth items ++ rest) plain.1
      (endsNumber_laidItems layout depth items rest) (by omega)
    -- from here on the items are those after the first, which was read with its comma ahead
    have items_read := readItems_laid items depth fuel rest _ item plain.2 item_read (by omega)
    simp only [laid, List.cons_append, List.append_assoc, readValue]
    rw [← List.append_assoc, skip_laid layout (depth + 1) plain.1 (layout.opening_blank depth)]
    rw [shape, List.cons_append] at items_read ⊢
    split
    · next same => exact absurd (List.cons.inj same).1 other
    · rw [items_read]
      rfl
  | .obj [], depth, fuel + 1, rest, _, _, _ => rfl
  | .obj ((name, value) :: members), depth, fuel + 1, rest, plain, _, enough => by
    simp only [laid, laidMember, List.length_cons, List.length_append] at enough
    obtain ⟨fuel, rfl⟩ : ∃ less, fuel = less + 1 := ⟨fuel - 1, by omega⟩
    have value_read := readValue_laid value (depth + 1) fuel (laidMembers layout depth members ++ rest)
      plain.2.1 (endsNumber_laidMembers layout depth members rest) (by omega)
    have members_read := readMembers_laid members depth fuel rest _ [] name value plain.1 plain.2.2
      (skip_laid layout (depth + 1) plain.2.1 layout.naming_blank _ ▸ value_read) (by omega)
    simp only [laid, laidMember, writeString, List.cons_append, List.append_assoc, readValue]
    rw [skip_mark (layout.opening_blank depth) (by decide)]
    simp only [writeString, List.cons_append, List.append_assoc, List.nil_append] at members_read ⊢
    change (readMembers (fuel + 1) [] _).map _ = _
    rw [members_read]
    rfl

theorem readItems_laid : ∀ (items : List Json) (depth fuel : Nat) (rest text : List CodePoint) (item : Json),
    PlainItems items → readValue fuel text = .ok (item, laidItems layout depth items ++ rest) →
    2 * (laidItems layout depth items).length ≤ fuel →
    readItems (fuel + 1) text = .ok (item :: items, rest)
  | [], depth, fuel, rest, text, item, _, read, _ => by
    simp only [readItems, read, laidItems, List.append_assoc, bind, Except.bind]
    rw [List.singleton_append, skip_mark (layout.closing_blank depth) (by decide)]
    rfl
  | next :: items, depth, fuel, rest, text, item, plain, read, enough => by
    simp only [laidItems, List.length_cons, List.length_append] at enough
    obtain ⟨fuel, rfl⟩ : ∃ less, fuel = less + 1 := ⟨fuel - 1, by omega⟩
    have next_read := readValue_laid next (depth + 1) fuel (laidItems layout depth items ++ rest) plain.1
      (endsNumber_laidItems layout depth items rest) (by omega)
    have items_read := readItems_laid items depth fuel rest _ next plain.2 next_read (by omega)
    simp only [laidItems, List.cons_append, List.append_assoc] at read
    simp only [readItems.eq_def (fuel + 1 + 1), read, bind, Except.bind]
    rw [skip_cons (by decide)]
    simp only
    rw [← List.append_assoc, skip_laid layout (depth + 1) plain.1 (layout.between_blank depth), items_read]
    rfl

theorem readMembers_laid : ∀ (members : List (Text × Json)) (depth fuel : Nat) (rest text : List CodePoint)
    (before : Table Text Json) (name : Text) (value : Json),
    Table.Distinct (before ++ (name, value) :: members) → PlainMembers members →
    readValue fuel (skip text) = .ok (value, laidMembers layout depth members ++ rest) →
    2 * (laidMembers layout depth members).length ≤ fuel →
    readMembers (fuel + 1) before (writeString name ++ .char ':' :: text) =
      .ok (before ++ (name, value) :: members, rest)
  | [], depth, fuel, rest, text, before, name, value, distinct, _, read, _ => by
    rw [laidMembers, List.append_assoc] at read
    have last : skip (layout.closing depth ++ ([.char '\x7d'] ++ rest)) = .char '\x7d' :: rest :=
      skip_mark (layout.closing_blank depth) (by decide) rest
    rw [(readMembers_member fuel before name read).1 rest last,
      Table.put_of_not_mem before name value (Table.not_mem_of_distinct distinct)]
  | (next, following) :: members, depth, fuel, rest, text, before, name, value, distinct, plain, read,
      enough => by
    simp only [laidMembers, laidMember, List.length_cons, List.length_append] at enough
    obtain ⟨fuel, rfl⟩ : ∃ less, fuel = less + 1 := ⟨fuel - 1, by omega⟩
    -- the member that was read joins the ones before it, and reading goes on with the next name
    have following_read := readValue_laid following (depth + 1) fuel
      (laidMembers layout depth members ++ rest) plain.1
      (endsNumber_laidMembers layout depth members rest) (by omega)
    have members_read :=
      readMembers_laid members depth fuel rest _ (before ++ [(name, value)]) next following
      (by simpa using distinct) plain.2
      (skip_laid layout (depth + 1) plain.1 layout.naming_blank _ ▸ following_read) (by omega)
    rw [laidMembers, List.cons_append] at read
    rw [(readMembers_member (fuel + 1) before name read).2 _ (skip_cons (by decide) _),
      Table.put_of_not_mem before name value (Table.not_mem_of_distinct distinct)]
    simp only [laidMember, List.append_assoc, List.cons_append] at members_read ⊢
    rw [skip_append (layout.between_blank depth), skip_writeString, members_read]
    simp

end

/-! ## Whole texts -/

theorem parse_laid {value : Json} (plain : value.Plain) {blanks : List CodePoint}
    (blank : ∀ c ∈ blanks, isSpace c = true) :
    parse (Text.ofList (laid layout 0 value ++ blanks)) = .ok value := by
  obtain ⟨first, tail, shape, _, _, unmarked⟩ := laid_eq_cons layout 0 plain
  -- no blank stands before the value, and nothing else after it
  have start : skip (laid layout 0 value ++ blanks) = laid layout 0 value ++ blanks :=
    skip_laid layout 0 plain (fun _ none => absurd none List.not_mem_nil) blanks
  have ends : EndsNumber blanks := List.append_nil blanks ▸ endsNumber_append blank endsNumber_nil
  have ended : skip blanks = [] := List.dropWhile_eq_nil_iff.2 blank
  have all : readAll (laid layout 0 value ++ blanks) = .ok value := by
    simp only [readAll, start, bind, Except.bind]
    rw [readValue_laid layout value 0 _ blanks plain ends
      (by simp only [fuelFor, List.length_append]; omega)]
    simp only [ended]
    rfl
  simp only [parse]
  rw [shape, List.cons_append] at all ⊢
  split
  · next same => exact absurd (List.cons.inj same).1 unmarked
  · rw [all]

end

theorem parse_lay (layout : Layout) {value : Json} (plain : value.Plain) :
    parse (lay layout value) = .ok value := by
  have read := parse_laid layout plain (fun _ none => absurd none List.not_mem_nil)
  rwa [List.append_nil] at read

theorem parse_render {value : Json} (plain : value.Plain) : parse value.render = .ok value :=
  render_eq_lay value ▸ parse_lay .oneLine plain

theorem parse_renderIndented {value : Json} (plain : value.Plain) :
    parse (value.renderIndented ++ "\n") = .ok value := by
  have read := parse_laid .indented plain
    (List.forall_mem_singleton.mpr rfl : ∀ c ∈ [CodePoint.char '\n'], isSpace c = true)
  rw [laid_indented] at read
  exact read

/-! ## Objects that were read -/

theorem readNumber_ne_obj {negative : Bool} {whole : List Char} {text rest : List CodePoint}
    {members : List (Text × Json)} :
    readNumber negative whole text ≠ .ok (.obj members, rest) := by
  intro read
  simp only [readNumber, wholeNumber] at read
  split at read
  · split at read <;> cases read
  · cases read

theorem readWord_ne_obj {text rest : List CodePoint} {members : List (Text × Json)} :
    readWord text ≠ .ok (.obj members, rest) := by
  intro read
  rw [readWord.eq_def] at read
  split at read
  all_goals first
    | cases read
    | (split at read
       · exact readNumber_ne_obj read
       · cases read)

-- one case for each place where reading members can fail or end
theorem distinct_of_readMembers {fuel : Nat} {before members : Table Text Json} {text rest : List CodePoint}
    (read : readMembers fuel before text = .ok (members, rest)) (distinct : before.Distinct) :
    members.Distinct := by
  induction fuel generalizing before text with
  | zero => cases read
  | succ fuel ih =>
    rw [readMembers.eq_def] at read
    simp only [bind, Except.bind] at read
    split at read
    · split at read
      · cases read
      · split at read
        · split at read
          · cases read
          · split at read
            · cases read
              exact distinct.put _ _
            · exact ih read (distinct.put _ _)
            · cases read
        · cases read
    · cases read

theorem distinct_of_readValue {fuel : Nat} {text rest : List CodePoint} {members : List (Text × Json)}
    (read : readValue fuel text = .ok (.obj members, rest)) : Table.Distinct members := by
  cases fuel with
  | zero => cases read
  | succ fuel =>
    rw [readValue.eq_def] at read
    simp only at read
    split at read
    · cases found : readString _ _ <;> rw [found] at read <;> cases read
    · split at read
      · cases read
      · cases found : readItems fuel _ <;> rw [found] at read <;> cases read
    · split at read
      · cases read
        exact Table.distinct_nil
      · cases found : readMembers fuel [] _ with
        | error fault => rw [found] at read; cases read
        | ok result =>
          rw [found] at read
          cases read
          exact distinct_of_readMembers found Table.distinct_nil
    · exact absurd read readWord_ne_obj

/-- A name that comes again in an object takes its first place, so names are distinct. -/
theorem distinct_of_parse {text : Text} {members : List (Text × Json)}
    (parsed : parse text = .ok (.obj members)) : Table.Distinct members := by
  simp only [parse] at parsed
  split at parsed
  · cases parsed
  · split at parsed
    · next value read =>
      cases parsed
      simp only [readAll, bind, Except.bind] at read
      split at read
      · cases read
      · next result found =>
        obtain ⟨value, rest⟩ := result
        split at read
        · cases read
          exact distinct_of_readValue found
        · cases read
    · cases parsed
    · cases parsed

end Pushbutton.Json
