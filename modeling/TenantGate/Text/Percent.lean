/-
Bytes written as a percent sign and two hexadecimal digits. A percent
sign without two digits stands for itself. In the fields of a form a
plus sign stands for a space.
-/
import TenantGate.Text.Hex
import TenantGate.Text.Utf8

namespace TenantGate.Text.Percent

/-- The value of a byte that is a hexadecimal digit. -/
def hex? (b : UInt8) : Option Nat := Hex.value? (Char.ofNat b.toNat)

/-- Decodes the escapes in a list of bytes. -/
def decode : List UInt8 → List UInt8
  | [] => []
  | 0x25 :: a :: b :: rest =>
      match hex? a, hex? b with
      | some x, some y => UInt8.ofNat (16 * x + y) :: decode rest
      | _, _ => 0x25 :: decode (a :: b :: rest)
  | b :: rest => b :: decode rest

/-- The text that an escaped text stands for, if its bytes spell one. -/
def decodeText? (s : String) : Option String := Utf8.text? (decode s.toUTF8.toList)

/-- The characters of a field of a form; bytes that spell none are
replaced. -/
def decodeField (cs : List Char) : List Char :=
  let spaced := cs.map fun c => if c = '+' then ' ' else c
  (Utf8.decode (decode (String.ofList spaced).toUTF8.toList)).map (·.getD '\ufffd')

end TenantGate.Text.Percent
