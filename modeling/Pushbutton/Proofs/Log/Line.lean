import Pushbutton.Log.Line
import Pushbutton.Proofs.Json.Visible
import Pushbutton.Proofs.Log.Timestamp
import Pushbutton.Proofs.Table
import Pushbutton.Proofs.Text.Whole

/-! A log record and its line. Whatever texts the record holds, the line is one of JSON, from which the record can be
told again with the attributes that were set on it. -/

set_option autoImplicit false

namespace Pushbutton.Log

/-! ## Attributes -/

def Record.setAll (record : Record) (attributes : List (Text × Json)) : Record :=
  attributes.foldl (fun record entry => record.set entry.1 entry.2) record

def shared (attributes : List (Text × Json)) : List (Text × Json) :=
  attributes.filter fun entry => !isPrivate entry.1

theorem shared_concat (attributes : List (Text × Json)) (last : Text × Json) :
    shared (attributes ++ [last]) =
      shared attributes ++ if isPrivate last.1 then [] else [last] := by
  rw [shared, List.filter_append, List.filter_singleton]
  cases isPrivate last.1 <;> rfl

/-- An attribute that no record has of its own is an extra one, unless it is private. -/
theorem Record.set_of_foreign (record : Record) {name : Text} (foreign : name ∉ ownNames) (value : Json) :
    record.set name value =
      if isPrivate name then record else { record with extra := Table.put record.extra name value } := by
  have extra : isExtra name = !isPrivate name := by
    rw [isExtra, List.contains_eq_mem, decide_eq_false foreign, Bool.not_false, Bool.true_and]
  unfold Record.set
  -- a name that replaces a part of the record is one that every record has
  split <;> try
    next same =>
      rw [Text.string?_eq_some_iff.mp same] at foreign
      exact absurd (by decide) foreign
  rw [extra]
  cases isPrivate name <;> rfl

theorem Record.setAll_of_foreign {record : Record} (bare : record.extra = []) {attributes : List (Text × Json)}
    (foreign : ∀ entry ∈ attributes, entry.1 ∉ ownNames) :
    record.setAll attributes = { record with extra := Table.ofList (shared attributes) } := by
  induction attributes using List.reverseRecOn with
  | nil =>
    obtain ⟨logger, level, message, values, created, extra, exception⟩ := record
    cases bare
    rfl
  | append_singleton attributes last ih =>
    have earlier := ih fun entry member => foreign entry (List.mem_append_left _ member)
    have before : record.setAll (attributes ++ [last]) = (record.setAll attributes).set last.1 last.2 := by
      simp [setAll]
    rw [before, earlier, set_of_foreign _ (foreign last (by simp)), shared_concat]
    cases isPrivate last.1 with
    | true => simp
    | false => simp [Table.ofList_concat]

/-! ## Lines -/

structure Occasion where
  logger : Text
  level : Text
  message : Json
  values : Placeholder.Values := .ordered []
  moment : Binary64
  exception : Option Text := none

namespace Occasion

variable (occasion : Occasion)

def cause : Cause := (occasion.exception.map Cause.text).getD .none

def record (attributes : List (Text × Json)) : Record :=
  Record.setAll
    { logger := .str occasion.logger, level := .str occasion.level, message := occasion.message,
      values := occasion.values, created := .float occasion.moment, exception := occasion.cause } attributes

/-- What a line tells: the texts of the record, the attributes that are not private if there are any, and the text of
an exception if there was one. -/
def told (time : String) (message : Text) (attributes : List (Text × Json)) : List (Text × Json) :=
  let extra := if shared attributes = [] then [] else [(("extra" : Text), Json.obj (Table.ofList (shared attributes)))]
  ("timestamp", .str time) :: ("level", .str occasion.level) :: ("logger", .str occasion.logger) ::
    ("message", .str message) ::
      (extra ++ (occasion.exception.map fun text => (("exception" : Text), Json.str text)).toList)

variable {occasion} {attributes : List (Text × Json)}

theorem members_cause : occasion.cause.members =
    .ok (occasion.exception.map fun text => (("exception" : Text), Json.str text)).toList := by
  rw [cause]
  cases occasion.exception <;> rfl

theorem toJson_record {message : Text} {seconds : Int} {millionths : Nat} {time : List Char}
    (filled : fillMessage occasion.message occasion.values = .ok message)
    (moment : Timestamp.split occasion.moment = .ok (seconds, millionths))
    (shown : Timestamp.text seconds millionths = .ok time)
    (foreign : ∀ entry ∈ attributes, entry.1 ∉ ownNames ∧ entry.1 ≠ fillName) :
    (occasion.record attributes).toJson = .ok (.obj (occasion.told (String.ofList time) message attributes)) := by
  have callable : Table.get? (Table.ofList (shared attributes)) fillName = none := by
    rw [Table.get?_eq_none_iff]
    intro member
    obtain ⟨entry, held, same⟩ := List.mem_map.mp member
    exact (foreign entry (List.mem_of_mem_filter (Table.mem_of_mem_ofList held))).2 same
  have timed : timestamp (.float occasion.moment) = .ok time := by
    simp [timestamp, Timestamp.ofSeconds, moment, shown, bind, Except.bind, Except.mapError]
  have extra : (Table.ofList (shared attributes)).isEmpty = true ↔ shared attributes = [] := by
    rw [Table.isEmpty_ofList, List.isEmpty_iff]
  rw [record, Record.setAll_of_foreign rfl fun entry member => (foreign entry member).1, Record.toJson, timed,
    Record.filled, callable]
  dsimp only
  rw [filled, members_cause]
  simp only [told, bind, Except.bind, pure, Except.pure, extraMembers, extra]

theorem plain_told (time : String) (message : Text) (plain : ∀ entry ∈ attributes, entry.2.Plain) :
    (Json.obj (occasion.told time message attributes)).Plain := by
  have extra : Table.Distinct (Table.ofList (shared attributes)) ∧
      Json.PlainMembers (Table.ofList (shared attributes)) := by
    rw [Json.plainMembers_iff]
    refine ⟨Table.distinct_ofList _, fun entry member => ?_⟩
    exact plain entry (List.mem_of_mem_filter (Table.mem_of_mem_ofList member))
  rw [Json.Plain, Json.plainMembers_iff, told]
  constructor
  · split <;> cases occasion.exception <;> simp [Table.Distinct, Table.names]
  · split <;> cases occasion.exception <;> simp [Json.Plain, extra]

/-- The line of a record is one of JSON. It holds no control character, and is read back as the texts of the record as
they were, with the attributes that are not private in the order in which they were set: as a table, in which a name
that was set again has its last value, and which is the attributes themselves if none was. -/
theorem line_decodes (occasion : Occasion) {attributes : List (Text × Json)} {message : Text} {seconds : Int}
    {millionths : Nat} (filled : fillMessage occasion.message occasion.values = .ok message)
    (moment : Timestamp.split occasion.moment = .ok (seconds, millionths)) (dated : Timestamp.Dated seconds)
    (foreign : ∀ entry ∈ attributes, entry.1 ∉ ownNames ∧ entry.1 ≠ fillName)
    (plain : ∀ entry ∈ attributes, entry.2.Plain) :
    ∃ line time, (occasion.record attributes).line = .ok line ∧ (∀ c ∈ line.toList, 0x20 ≤ c.toNat) ∧
      Json.parse line = .ok (.obj (occasion.told time message attributes)) ∧
      (Table.Distinct attributes → Table.ofList (shared attributes) = shared attributes) := by
  obtain ⟨time, shown⟩ := (Timestamp.exists_text_iff seconds millionths).mpr dated
  have told := occasion.plain_told (String.ofList time) message plain
  refine ⟨_, String.ofList time, ?_, Json.visible_render told, Json.parse_render told, fun distinct => ?_⟩
  · rw [Record.line, toJson_record filled moment shown foreign]
    rfl
  · exact Table.ofList_of_distinct (List.Nodup.sublist (List.filter_sublist.map _) distinct)

/-! ## Attributes with unusual names -/

def troubled : Occasion where
  logger := "a \"logger\""
  level := "WARNING"
  message := .str "one\ntwo\x00"
  moment := .finite false 0 0
  exception := some "OSError: first\nsecond"

def unusual : List (Text × Json) :=
  [("level", .arr [.null, .int (-3)]), ("_hidden", .bool true), ("", .obj [("\t", .str "\n")])]

theorem line_decodes_troubled :
    ∃ line time, (troubled.record unusual).line = .ok line ∧
      Json.parse line = .ok (.obj [("timestamp", .str time), ("level", .str "WARNING"),
        ("logger", .str "a \"logger\""), ("message", .str "one\ntwo\x00"),
        ("extra", .obj [("level", .arr [.null, .int (-3)]), ("", .obj [("\t", .str "\n")])]),
        ("exception", .str "OSError: first\nsecond")]) := by
  have filled : fillMessage troubled.message troubled.values = .ok "one\ntwo\x00" := rfl
  have moment : Timestamp.split troubled.moment = .ok (0, 0) := rfl
  have foreign : ∀ entry ∈ unusual, entry.1 ∉ ownNames ∧ entry.1 ≠ fillName := by decide
  have plain : ∀ entry ∈ unusual, entry.2.Plain := by
    simp [unusual, Json.Plain, Json.PlainItems, Json.PlainMembers, Json.PlainMember, Text.natDigits_of_lt,
      Text.digitLimit, Table.Distinct, Table.names]
  obtain ⟨line, time, written, -, read, -⟩ := line_decodes troubled filled moment (by decide) foreign plain
  exact ⟨line, time, written, read⟩

/-- No line is left of a record when an attribute has the name of the method that fills its message. -/
theorem record_unwritten : (troubled.record [("getMessage", .str "x")]).line = .error (.notMethod (.str "x")) := rfl

end Occasion

end Pushbutton.Log
