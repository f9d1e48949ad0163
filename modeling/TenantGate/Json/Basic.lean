/-
JSON values and their texts. An object keeps its members in order. A
number is whole or a float; a float is written with its fewest digits
and always shows a point or an exponent, and one that is not finite is
written as null.
-/
import TenantGate.Decimal.Shortest
import TenantGate.Text.Hex

namespace TenantGate

/-- A JSON value. -/
inductive Json where
  | null
  | bool (b : Bool)
  | int (n : Int)
  | float (x : Float)
  | string (s : String)
  | array (items : List Json)
  | object (members : List (String × Json))
deriving Inhabited

namespace Json

/-- Orders from -5 to 15 are written without an exponent, a whole number
ends in `.0`, and an exponent has two digits. -/
def numbers : Decimal.Layout := ⟨some (-5, 15), true, 2⟩

/-- A character of a string. -/
def writeChar (c : Char) : List Char :=
  if c = '"' then ['\\', '"']
  else if c = '\\' then ['\\', '\\']
  else if c.toNat < 0x20 then
    '\\' :: 'u' :: Text.Hex.padded Text.Hex.digit 4 c.toNat
  else [c]

/-- A string between quotes. -/
def quote (s : String) : String :=
  "\"" ++ s.foldl (fun t c => (writeChar c).foldl String.push t) "" ++ "\""

/-- The text of a float. -/
def writeFloat (x : Float) : String :=
  if x.isFinite then numbers.writeFloat x else "null"

mutual

/-- The text of a value, without blanks. -/
def write : Json → String
  | null => "null"
  | bool b => if b then "true" else "false"
  | int n => toString n
  | float x => writeFloat x
  | string s => quote s
  | array [] => "[]"
  | array (v :: vs) => "[" ++ write v ++ writeItems vs ++ "]"
  | object [] => "\x7b\x7d"
  | object ((k, v) :: ms) =>
      "\x7b" ++ quote k ++ ":" ++ write v ++ writeMembers ms ++ "\x7d"

/-- The items after the first. -/
def writeItems : List Json → String
  | [] => ""
  | v :: vs => "," ++ write v ++ writeItems vs

/-- The members after the first. -/
def writeMembers : List (String × Json) → String
  | [] => ""
  | (k, v) :: ms => "," ++ quote k ++ ":" ++ write v ++ writeMembers ms

end

instance : Coe String Json := ⟨string⟩
instance : Coe Bool Json := ⟨bool⟩

/-- A whole number that is not negative. -/
def nat (n : Nat) : Json := int n

/-- A value, or null where there is none. -/
def orNull {α : Type} (f : α → Json) : Option α → Json
  | some a => f a
  | none => null

/-- A list of strings. -/
def strings (ss : List String) : Json := array (ss.map string)

end Json

end TenantGate
