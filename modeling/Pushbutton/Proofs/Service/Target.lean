import Mathlib.Data.List.TakeWhile
import Pushbutton.Proofs.Text.Joined
import Pushbutton.Service.Target

/-! Targets that are taken as they stand: no part of the path needs decoding, and none leads elsewhere. -/

set_option autoImplicit false

namespace Pushbutton.Service

/-! ## Octets -/

theorem toList_eq_data (octets : ByteArray) : octets.toList = octets.data.toList := by
  have size : octets.data.toList.length = octets.size := rfl
  have collected (left i : Nat) (before : List UInt8) (count : left = octets.size - i) :
      ByteArray.toList.loop octets i before = before.reverse ++ octets.data.toList.drop i := by
    induction left generalizing i before with
    | zero =>
      rw [ByteArray.toList.loop, if_neg (by omega), List.drop_eq_nil_of_le (by omega), List.append_nil]
    | succ left ih =>
      have inside : i < octets.data.toList.length := by omega
      have octet : octets.get! i = octets.data.toList[i] := getElem!_pos octets.data i inside
      rw [ByteArray.toList.loop, if_pos (by omega), ih (i + 1) _ (by omega),
        List.drop_eq_getElem_cons (i := i) inside, octet]
      simp
  exact collected _ 0 [] rfl

theorem readable_toUTF8 (text : String) : readable text.toUTF8.toList = text := by
  have octets : (⟨text.toUTF8.toList.toArray⟩ : ByteArray) = text.toUTF8 := by rw [toList_eq_data]
  have valid : text.toUTF8.IsValidUTF8 := text.isValidUTF8
  rw [readable, octets, String.fromUTF8?, dif_pos valid]
  rfl

theorem decodePercent_eq {octets : List UInt8} (plain : 37 ∉ octets) : decodePercent octets = octets := by
  induction octets with
  | nil => rfl
  | cons octet rest ih =>
    rw [List.mem_cons, not_or] at plain
    rw [decodePercent.eq_2, ih plain.2]
    rintro a b more rfl
    exact absurd rfl plain.1

theorem eq_of_mem_utf8EncodeChar {c : Char} (member : (37 : UInt8) ∈ String.utf8EncodeChar c) : c = '%' := by
  have code (n : Nat) : (37 : UInt8) = UInt8.ofNat n ↔ n % 256 = 37 := by
    rw [← UInt8.toNat_inj, UInt8.toNat_ofNat']
    exact eq_comm
  unfold String.utf8EncodeChar at member
  simp only at member
  split at member
  · next low =>
    rw [List.mem_singleton, code] at member
    rw [Nat.mod_eq_of_lt (by omega)] at member
    exact Char.ext (UInt32.toNat_inj.mp member)
  -- all octets of a longer sequence have their highest bit
  · split at member
    · simp only [List.mem_cons, List.not_mem_nil, or_false, code] at member
      omega
    · split at member
      · simp only [List.mem_cons, List.not_mem_nil, or_false, code] at member
        omega
      · simp only [List.mem_cons, List.not_mem_nil, or_false, code] at member
        omega

theorem decoded_eq {path : String} (plain : '%' ∉ path.toList) :
    readable (decodePercent path.toUTF8.toList) = path := by
  have octets : path.toUTF8.toList = path.toList.flatMap String.utf8EncodeChar := by
    have encoded := String.toByteArray_ofList (l := path.toList)
    rw [String.ofList_toList] at encoded
    rw [toList_eq_data, String.toUTF8_eq_toByteArray, encoded, List.utf8Encode, List.toList_data_toByteArray]
  have none : (37 : UInt8) ∉ path.toUTF8.toList := by
    rw [octets, List.mem_flatMap]
    rintro ⟨c, member, octet⟩
    exact plain (eq_of_mem_utf8EncodeChar octet ▸ member)
  rw [decodePercent_eq none, readable_toUTF8]

/-! ## Parts -/

/-- A part of a path that is taken as it stands. -/
structure PlainPart (part : String) : Prop where
  literal : ∀ c ∈ part.toList, c ≠ '/' ∧ c ≠ '?' ∧ c ≠ '#' ∧ c ≠ '%'
  proper : part ≠ "" ∧ part ≠ "." ∧ part ≠ ".."

theorem resolve_eq {parts : List String} (proper : ∀ part ∈ parts, part ≠ "." ∧ part ≠ "..")
    (taken : List String) : resolve taken parts = taken ++ parts := by
  induction parts generalizing taken with
  | nil => simp [resolve]
  | cons part rest ih =>
    obtain ⟨⟨still, up⟩, others⟩ := List.forall_mem_cons.mp proper
    rw [resolve.eq_4 _ _ _ still up, ih others]
    simp

theorem pathOf_plain {first : String} {rest : List String} (plain : ∀ part ∈ first :: rest, PlainPart part) :
    pathOf ("/".intercalate ("" :: first :: rest)) = "/".intercalate ("" :: first :: rest) := by
  let path := "/".intercalate (first :: rest)
  have target : "/".intercalate ("" :: first :: rest) = "/" ++ path := by simp [path]
  have text : ("/" ++ path).toList = '/' :: path.toList := by simp
  have literal : ∀ c ∈ ("/" ++ path).toList, (c != '?' && c != '#') = true ∧ c ≠ '%' := by
    intro c member
    rcases Text.mem_intercalate (target ▸ member) with slash | ⟨part, there, member⟩
    · obtain rfl : c = '/' := List.mem_singleton.mp slash
      decide
    · rcases List.mem_cons.mp there with rfl | there
      · cases member
      · obtain ⟨_, query, mark, percent⟩ := (plain part there).literal c member
        simp [query, mark, percent]
  have kept : ("/" ++ path).toList.takeWhile (fun c => c != '?' && c != '#') = '/' :: path.toList := by
    rw [← text, List.takeWhile_eq_self_iff]
    exact fun c member => (literal c member).1
  -- the first part is not empty, so there is one slash before it
  have solid : ('/' :: path.toList).dropWhile (· == '/') = path.toList := by
    have front : ∃ more, path.toList = first.toList ++ more := by
      cases rest with
      | nil => exact ⟨[], by simp [path]⟩
      | cons second rest =>
        exact ⟨("/" ++ "/".intercalate (second :: rest)).toList, by simp [path, String.append_assoc]⟩
    obtain ⟨more, front⟩ := front
    have plain := plain first List.mem_cons_self
    obtain ⟨c, others, shape⟩ := List.exists_cons_of_ne_nil (mt String.toList_eq_nil_iff.mp plain.proper.1)
    have solid := (plain.literal c (shape ▸ List.mem_cons_self)).1
    rw [front, shape, List.cons_append, List.dropWhile_cons_of_pos (by simp),
      List.dropWhile_cons_of_neg (by simpa using solid)]
  have parts : Text.parts '/' ("/" ++ path) = "" :: first :: rest := by
    rw [← target]
    apply Text.parts_intercalate
    exact List.forall_mem_cons.mpr ⟨List.not_mem_nil,
      fun part there slash => ((plain part there).literal '/' slash).1 rfl⟩
  have proper : ∀ part ∈ "" :: first :: rest, part ≠ "." ∧ part ≠ ".." :=
    List.forall_mem_cons.mpr ⟨by decide, fun part there => (plain part there).proper.2⟩
  rw [target, pathOf, kept, solid, String.ofList_toList, parts, resolve_eq proper, List.nil_append, target]
  exact decoded_eq fun percent => (literal '%' percent).2 rfl

end Pushbutton.Service
