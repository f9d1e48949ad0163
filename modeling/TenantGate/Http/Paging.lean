/-
The part of a history that a query asks for. The query is a form: names
and values between ampersands, read in order, the first problem
deciding. Names that mean nothing here are passed over.
-/
import TenantGate.Text.Number
import TenantGate.Text.Percent

namespace TenantGate.Http

open Text

/-- A page size, if one is asked for, and how many records to skip. -/
structure Paging where
  limit : Option Nat
  offset : Nat
deriving DecidableEq, Inhabited

namespace Paging

/-- Why a query asks for no page. -/
inductive Fault where
  | number (f : Number.Fault)
  | duplicate (name : String)
deriving DecidableEq, Inhabited

def Fault.message : Fault → String
  | number f => f.message
  | duplicate name => "duplicate field `" ++ name ++ "`"

/-- Cuts a text at each `c`. -/
def splitAt (c : Char) : List Char → List (List Char)
  | [] => [[]]
  | x :: xs =>
      if x = c then [] :: splitAt c xs
      else
        match splitAt c xs with
        | piece :: rest => (x :: piece) :: rest
        | [] => [[x]]

/-- The names and values of a form. -/
def fields (query : List Char) : List (String × List Char) :=
  ((splitAt '&' query).filter (!·.isEmpty)).map fun piece =>
    (String.ofList (Percent.decodeField (piece.takeWhile (· ≠ '='))),
      Percent.decodeField ((piece.dropWhile (· ≠ '=')).drop 1))

/-- A count of 64 bits. -/
def count (cs : List Char) : Except Fault Nat :=
  (Number.readNat 0xFFFFFFFFFFFFFFFF cs).mapError .number

/-- Takes the fields in order into what was found so far. -/
def collect (limit offset : Option Nat) : List (String × List Char) → Except Fault Paging
  | [] => .ok ⟨limit, offset.getD 0⟩
  | (name, value) :: rest =>
      if name = "limit" then
        if limit.isSome then .error (.duplicate name)
        else
          match count value with
          | .ok n => collect (some n) offset rest
          | .error e => .error e
      else if name = "offset" then
        if offset.isSome then .error (.duplicate name)
        else
          match count value with
          | .ok n => collect limit (some n) rest
          | .error e => .error e
      else collect limit offset rest

/-- The page that a query asks for. -/
def ofQuery (query : List Char) : Except Fault Paging := collect none none (fields query)

end Paging

end TenantGate.Http
