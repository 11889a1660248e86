import Pushbutton.Text.Digit
import Pushbutton.Text.Split

/-! The path that the target of a request names. -/

set_option autoImplicit false

namespace Pushbutton.Service

/-- Steps that stay or go up are resolved, and nothing is above the top. -/
def resolve (taken : List String) : List String → List String
  | [] => taken
  | "." :: rest => resolve taken rest
  | ".." :: rest =>
    resolve (if taken = [] ∨ taken = [""] then taken else taken.dropLast) rest
  | part :: rest => resolve (taken ++ [part]) rest

def decodePercent : List UInt8 → List UInt8
  | 37 :: a :: b :: rest =>
    match Text.hexValue? (Char.ofNat a.toNat), Text.hexValue? (Char.ofNat b.toNat) with
    | some high, some low => (16 * high + low).toUInt8 :: decodePercent rest
    | _, _ => 37 :: decodePercent (a :: b :: rest)
  | octet :: rest => octet :: decodePercent rest
  | [] => []

/-- The text of octets; what is no text is replaced. -/
def readable (octets : List UInt8) : String :=
  match String.fromUTF8? ⟨octets.toArray⟩ with
  | some text => text
  | none => String.ofList (octets.map fun octet =>
      if octet.toNat < 128 then Char.ofNat octet.toNat else '\uFFFD')

/-- What comes after the path, a query or a mark, is left out. -/
def pathOf (target : String) : String :=
  let path := String.ofList ((target.toList.takeWhile fun c => c != '?' && c != '#').dropWhile (· == '/'))
  let path := "/".intercalate (resolve [] (Text.parts '/' ("/" ++ path)))
  readable (decodePercent path.toUTF8.toList)

end Pushbutton.Service
