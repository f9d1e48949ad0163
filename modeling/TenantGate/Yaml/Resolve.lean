/-
What a scalar stands for. A plain scalar is a number, a truth value or
null if it is spelled like one, and otherwise a string; anything quoted
is a string. A tag of the common vocabulary says what a plain scalar has
to be; under any other tag it is a string. Infinity and what is no number
are no values: a text that names them is refused.
-/
import TenantGate.Decimal.Read
import TenantGate.Json.Basic

namespace TenantGate.Yaml

open Text (Hex.value?)
open Text.Number (digit? maxInt64 readInt64?)

/-- A number of 64 bits in the digits of a base, with an optional sign. -/
def radix? (base : Nat) (cs : List Char) : Option Int :=
  let (negative, ds) := Decimal.takeSign cs
  let digits := ds.mapM fun c => (Hex.value? c).filter (· < base)
  match digits with
  | none | some [] => none
  | some values =>
      let n := values.foldl (fun n d => base * n + d) 0
      if negative then if n ≤ maxInt64 + 1 then some (-(n : Int)) else none
      else if n ≤ maxInt64 then some n else none

/-- A whole number: hexadecimal behind `0x`, octal behind `0o`, else
decimal. A second sign may stand behind a plus sign. -/
def whole? (s : String) : Option Int :=
  let marked := match s.toList with
    | '0' :: 'x' :: cs => radix? 16 cs
    | '0' :: 'o' :: cs => radix? 8 cs
    | '+' :: cs => readInt64? (String.ofList cs)
    | _ => none
  marked <|> readInt64? s

/-- The words for infinity and for what is no number. -/
def endless : List String :=
  [".inf", ".Inf", ".INF", "+.inf", "+.Inf", "+.INF", "-.inf", "-.Inf", "-.INF",
    ".nan", ".NaN", ".NAN"]

/-- A float: a decimal number with at least one digit. -/
def float? (s : String) : Option Float :=
  if s.toList.any fun c => (digit? c).isSome then Decimal.read? s.toList else none

/-- The value of a plain scalar. The words for floats that are not finite
have none. -/
def plainValue? (s : String) : Option Json :=
  if s ∈ endless then none
  else if s ∈ ["", "~", "null"] then some .null
  else if s = "true" then some true
  else if s = "false" then some false
  else
    match whole? s, float? s with
    | some n, _ => some (.int n)
    | none, some x => some (.float x)
    | none, none => some s

/-- The start of the names in the common vocabulary. -/
def common : String := "tag:yaml.org,2002:"

/-- The value of a plain scalar under a tag; null where it cannot be what
the tag says. -/
def taggedValue? (tag s : String) : Option Json :=
  if tag = common ++ "bool" then
    if s = "true" then some true else if s = "false" then some false else some .null
  else if tag = common ++ "int" then
    match readInt64? s with
    | some n => some (.int n)
    | none => some .null
  else if tag = common ++ "float" then
    if s ∈ endless then none
    else
      match float? s with
      | some x => some (.float x)
      | none => some .null
  else if tag = common ++ "null" then some .null
  else some s

end TenantGate.Yaml
