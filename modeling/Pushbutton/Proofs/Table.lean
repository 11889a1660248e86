import Mathlib.Data.List.Forall2
import Mathlib.Data.List.Induction
import Mathlib.Data.List.Nodup
import Pushbutton.Table

/-! Tables whose names are distinct, what writing and erasing do to the names, and tables that are alike in the
names that are known. -/

set_option autoImplicit false

namespace Pushbutton.Table

variable {κ α : Type}

def names (table : Table κ α) : List κ := table.map (·.1)

def Distinct (table : Table κ α) : Prop := table.names.Nodup

@[simp] theorem names_nil : names ([] : Table κ α) = [] := rfl

@[simp] theorem names_cons (entry : κ × α) (table : Table κ α) :
    names (entry :: table) = entry.1 :: names table := rfl

theorem distinct_nil : Distinct ([] : Table κ α) := List.nodup_nil

theorem not_mem_of_distinct {before after : Table κ α} {entry : κ × α}
    (distinct : Distinct (before ++ entry :: after)) : entry.1 ∉ names before := by
  intro member
  rw [Distinct, names, List.map_append, List.nodup_append] at distinct
  exact distinct.2.2 entry.1 member entry.1 (by simp) rfl

variable [DecidableEq κ]

theorem get?_eq_none_iff (table : Table κ α) (key : κ) : table.get? key = none ↔ key ∉ table.names := by
  induction table with
  | nil => simp [get?]
  | cons entry rest ih =>
    obtain ⟨name, value⟩ := entry
    by_cases same : name = key
    · simp [get?, same]
    · simp [get?, same, ih, Ne.symm same]

theorem mem_of_get? {table : Table κ α} {key : κ} {value : α} (found : table.get? key = some value) :
    (key, value) ∈ table := by
  induction table with
  | nil => cases found
  | cons entry rest ih =>
    obtain ⟨name, old⟩ := entry
    rw [get?] at found
    split at found
    · next same =>
      cases found
      exact same ▸ List.mem_cons_self
    · exact List.mem_cons_of_mem _ (ih found)

theorem put_of_not_mem (table : Table κ α) (key : κ) (value : α) (absent : key ∉ table.names) :
    table.put key value = table ++ [(key, value)] := by
  induction table with
  | nil => rfl
  | cons entry rest ih =>
    obtain ⟨name, old⟩ := entry
    rw [names_cons, List.mem_cons, not_or] at absent
    simp [put, Ne.symm absent.1, ih absent.2]

theorem names_put_of_mem (table : Table κ α) (key : κ) (value : α) (present : key ∈ table.names) :
    (table.put key value).names = table.names := by
  induction table with
  | nil => simp at present
  | cons entry rest ih =>
    obtain ⟨name, old⟩ := entry
    by_cases same : name = key
    · simp [put, same]
    · rw [names_cons, List.mem_cons, eq_comm] at present
      simp [put, same, ih (present.resolve_left same)]

theorem names_prefix_put (table : Table κ α) (key : κ) (value : α) :
    table.names <+: (table.put key value).names := by
  by_cases present : key ∈ table.names
  · simp only [names_put_of_mem table key value present, List.prefix_rfl]
  · rw [put_of_not_mem table key value present, names, names, List.map_append]
    exact List.prefix_append _ _

theorem Distinct.put {table : Table κ α} (distinct : table.Distinct) (key : κ) (value : α) :
    (table.put key value).Distinct := by
  -- a name that is there keeps its place, and any other goes to the end
  by_cases present : key ∈ table.names
  · rw [Distinct, names_put_of_mem table key value present]
    exact distinct
  · rw [Distinct, put_of_not_mem table key value present, names, List.map_append]
    exact distinct.append (List.nodup_singleton key)
      (List.disjoint_singleton.mpr present)

theorem erase_sublist (table : Table κ α) (key : κ) : (table.erase key).Sublist table := by
  induction table with
  | nil => exact .slnil
  | cons entry rest ih =>
    obtain ⟨name, value⟩ := entry
    by_cases same : name = key
    · simpa only [erase, if_pos same] using List.sublist_cons_self _ _
    · simpa only [erase, if_neg same] using ih.cons_cons _

theorem Distinct.erase {table : Table κ α} (distinct : table.Distinct) (key : κ) :
    (table.erase key).Distinct :=
  List.Nodup.sublist ((erase_sublist table key).map _) distinct

/-! ## Tables made of entries -/

theorem mem_put {table : Table κ α} {key : κ} {value : α} {entry : κ × α}
    (member : entry ∈ table.put key value) : entry ∈ table ∨ entry = (key, value) := by
  induction table with
  | nil => exact .inr (List.mem_singleton.mp member)
  | cons first rest ih =>
    obtain ⟨name, old⟩ := first
    by_cases same : name = key
    · subst same
      simp only [put, if_true, List.mem_cons] at member ⊢
      rcases member with rfl | later
      · exact .inr rfl
      · exact .inl (.inr later)
    · simp only [put, if_neg same, List.mem_cons] at member ⊢
      rcases member with rfl | later
      · exact .inl (.inl rfl)
      · exact (ih later).imp_left .inr

theorem ofList_concat (entries : List (κ × α)) (last : κ × α) :
    ofList (entries ++ [last]) = (ofList entries).put last.1 last.2 := by
  simp [ofList]

theorem distinct_ofList (entries : List (κ × α)) : (ofList entries).Distinct := by
  induction entries using List.reverseRecOn with
  | nil => exact distinct_nil
  | append_singleton entries last ih =>
    rw [ofList_concat]
    exact ih.put last.1 last.2

theorem ofList_of_distinct {entries : Table κ α} (distinct : entries.Distinct) : ofList entries = entries := by
  induction entries using List.reverseRecOn with
  | nil => rfl
  | append_singleton entries last ih =>
    have earlier : Distinct entries := List.Nodup.sublist ((List.sublist_append_left _ _).map _) distinct
    rw [ofList_concat, ih earlier, put_of_not_mem _ _ _ (not_mem_of_distinct distinct)]

theorem mem_of_mem_ofList {entries : List (κ × α)} {entry : κ × α} (member : entry ∈ ofList entries) :
    entry ∈ entries := by
  induction entries using List.reverseRecOn with
  | nil => exact member
  | append_singleton entries last ih =>
    rw [ofList_concat] at member
    rw [List.mem_append, List.mem_singleton]
    exact (mem_put member).imp_left ih

theorem isEmpty_ofList (entries : List (κ × α)) : (ofList entries).isEmpty = entries.isEmpty := by
  induction entries using List.reverseRecOn with
  | nil => rfl
  | append_singleton entries last ih =>
    have found : ((ofList entries).put last.1 last.2).get? last.1 = some last.2 := by rw [get?_put, if_pos rfl]
    rw [ofList_concat]
    cases held : (ofList entries).put last.1 last.2 with
    | nil =>
      rw [held] at found
      cases found
    | cons first rest => simp

/-! ## Known names -/

theorem get?_eq_some_iff {table : Table κ α} (distinct : table.Distinct) {key : κ} {value : α} :
    table.get? key = some value ↔ (key, value) ∈ table := by
  induction table with
  | nil => simp [get?]
  | cons entry rest ih =>
    obtain ⟨name, old⟩ := entry
    rw [Distinct, names_cons, List.nodup_cons] at distinct
    by_cases same : name = key
    · subst same
      -- a later entry of the name would repeat it
      have once : (name, value) ∉ rest :=
        fun later => distinct.1 (List.mem_map.mpr ⟨(name, value), later, rfl⟩)
      simp [get?, once, eq_comm]
    · simp [get?, same, Ne.symm same, ih distinct.2]

theorem get?_of_perm {table other : Table κ α} (distinct : table.Distinct) (perm : table.Perm other)
    (key : κ) : table.get? key = other.get? key := by
  have otherDistinct : other.Distinct := (perm.map _).nodup_iff.mp distinct
  ext value
  rw [get?_eq_some_iff distinct, get?_eq_some_iff otherDistinct, perm.mem_iff]

theorem get?_filter {known : List κ} (table : Table κ α) {key : κ} (member : key ∈ known) :
    get? (table.filter (·.1 ∈ known)) key = table.get? key := by
  induction table with
  | nil => rfl
  | cons entry rest ih =>
    obtain ⟨name, value⟩ := entry
    by_cases kept : name ∈ known
    · rw [List.filter_cons_of_pos (by simpa using kept), get?, get?, ih]
    · have other : name ≠ key := fun same => kept (same ▸ member)
      rw [List.filter_cons_of_neg (by simpa using kept), get?, if_neg other, ih]

/-- Known names have values that are alike, in whatever order they stand and whatever stands beside them. -/
structure Alike (known : List κ) (inside : κ → α → α → Prop) (table other : Table κ α) : Prop where
  distinct : table.Distinct
  rearranged : ∃ middle : Table κ α, (table.filter (·.1 ∈ known)).Perm middle ∧
    List.Forall₂ (fun entry later => entry.1 = later.1 ∧ inside entry.1 entry.2 later.2)
      middle (other.filter (·.1 ∈ known))

theorem get?_of_forall₂ {inside : κ → α → α → Prop} {table other : Table κ α}
    (alike : List.Forall₂ (fun entry later => entry.1 = later.1 ∧ inside entry.1 entry.2 later.2) table other)
    (key : κ) : Option.Rel (inside key) (table.get? key) (other.get? key) := by
  induction alike with
  | nil => exact .none
  | @cons entry later rest others first _ ih =>
    obtain ⟨name, value⟩ := entry
    obtain ⟨_, laterValue⟩ := later
    obtain ⟨same, related⟩ := first
    cases same
    by_cases found : name = key
    · subst found
      simpa only [get?, if_pos] using Option.Rel.some related
    · simpa only [get?, if_neg found] using ih

theorem Alike.get? {known : List κ} {inside : κ → α → α → Prop} {table other : Table κ α}
    (alike : Alike known inside table other) (key : κ) (member : key ∈ known) :
    Option.Rel (inside key) (table.get? key) (other.get? key) := by
  obtain ⟨middle, perm, related⟩ := alike.rearranged
  have distinct : Distinct (table.filter (·.1 ∈ known)) :=
    List.Nodup.sublist (List.filter_sublist.map _) alike.distinct
  rw [← get?_filter table member, ← get?_filter other member, get?_of_perm distinct perm]
  exact get?_of_forall₂ related key

theorem Alike.get?_eq {known : List κ} {inside : κ → α → α → Prop} {table other : Table κ α}
    (alike : Alike known inside table other) (key : κ) (member : key ∈ known)
    (equal : inside key = Eq) : table.get? key = other.get? key := by
  have related := alike.get? key member
  rw [equal] at related
  generalize table.get? key = value at *
  generalize other.get? key = otherValue at *
  cases related with
  | none => rfl
  | some same => rw [same]

end Pushbutton.Table
