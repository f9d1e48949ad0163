/-
Values as YAML texts. Members stand one below the other, those of an
inner mapping two columns to the right; the entries of a list stand in
the column of their key, each behind a dash.
-/
import TenantGate.Json.Basic
import TenantGate.Yaml.Style

namespace TenantGate.Yaml

/-- The start of a line. -/
def pad (indent : Nat) : String := String.ofList (List.replicate indent ' ')

/-- A value without parts and the end of its line. -/
def writeScalar (indent : Nat) : Json → String
  | .string s => writeString indent s
  | v => v.write ++ "\n"

mutual

/-- What stands behind the colon of a member in the column `indent`. -/
def writeValue (indent : Nat) : Json → String
  | .array (v :: vs) => "\n" ++ writeEntries indent (v :: vs)
  | .object ((k, v) :: ms) => "\n" ++ writeMembers (indent + 2) true ((k, v) :: ms)
  | v => " " ++ writeScalar (indent + 2) v

/-- What stands behind a dash in the column `indent`. -/
def writeEntry (indent : Nat) : Json → String
  | .object ((k, v) :: ms) => writeMembers (indent + 2) false ((k, v) :: ms)
  | .array (v :: vs) => "\n" ++ writeEntries (indent + 2) (v :: vs)
  | v => writeScalar (indent + 2) v

/-- The entries of a list whose dashes stand in the column `indent`. -/
def writeEntries (indent : Nat) : List Json → String
  | [] => ""
  | v :: vs => pad indent ++ "- " ++ writeEntry indent v ++ writeEntries indent vs

/-- Members in the column `indent`; `fresh` tells whether the first starts
a line. -/
def writeMembers (indent : Nat) (fresh : Bool) : List (String × Json) → String
  | [] => ""
  | (k, v) :: ms =>
      (if fresh then pad indent else "") ++ k ++ ":" ++ writeValue indent v
        ++ writeMembers indent true ms

end

/-- The text of a value. -/
def write : Json → String
  | .object ((k, v) :: ms) => writeMembers 0 true ((k, v) :: ms)
  | .array (v :: vs) => writeEntries 0 (v :: vs)
  | v => writeScalar 0 v

end TenantGate.Yaml
