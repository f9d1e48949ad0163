/-
Requests as JSON texts.

A request is an object with its fields by name, in any order and with
any other members between them, or a list of the fields in their order.
The last two fields may be missing. The text is read from the front and
the first problem decides: a text that is malformed further on is
still refused for what is wrong before. What stands after the request
is left to the caller.
-/
import TenantGate.Execution.Request
import TenantGate.Json.Head
import TenantGate.Text.Utf8

namespace TenantGate.Execution.RequestText

open Json (Head Source)

/-- A field of a request. -/
inductive Field where
  | prompt
  | model
  | temperature
  | maxTokens
deriving DecidableEq, Inhabited

namespace Field

def name : Field → String
  | prompt => "prompt"
  | model => "model"
  | temperature => "temperature"
  | maxTokens => "max_tokens"

/-- The fields in their order. -/
def all : List Field := [prompt, model, temperature, maxTokens]

/-- The field of a name, in exactly this spelling. -/
def ofName? (s : String) : Option Field := all.find? fun f => f.name = s

end Field

/-- What a place in a text has to hold. -/
inductive Wanted where
  | text
  | float
  | count
  | request
deriving DecidableEq, Inhabited

def Wanted.describe : Wanted → String
  | text => "a string"
  | float => "f64"
  | count => "u32"
  | request => "struct ExecutionRequest"

/-- What is wrong with a text that is well formed so far. -/
inductive Mismatch where
  | kind (found : Head) (wanted : Wanted)
  | range (n : Int)
  | length (n : Nat)
  | missing (f : Field)
  | duplicate (f : Field)
deriving Inhabited

def Mismatch.message : Mismatch → String
  | kind found wanted => "invalid type: " ++ found.describe ++ ", expected " ++ wanted.describe
  | range n => "invalid value: integer `" ++ toString n ++ "`, expected u32"
  | length n =>
      "invalid length " ++ toString n ++ ", expected struct ExecutionRequest with 4 elements"
  | missing f => "missing field `" ++ f.name ++ "`"
  | duplicate f => "duplicate field `" ++ f.name ++ "`"

/-- Where a problem lies, if it lies inside a field. -/
inductive Place where
  | field (f : Field)
  | item (index : Nat)
deriving DecidableEq, Inhabited

def Place.describe : Place → String
  | field f => f.name
  | item i => "[" ++ toString i ++ "]"

/-- Why a text is no request. -/
inductive Error where
  | malformed
  | mismatch (place : Option Place) (m : Mismatch)
deriving Inhabited

/-- The problem with its place in front. -/
def Error.message : Error → String
  | malformed => "malformed"
  | mismatch none m => m.message
  | mismatch (some p) m => p.describe ++ ": " ++ m.message

-- =============================================================== fields

/-- The fields that were read so far. -/
structure Seen where
  prompt : Option String
  model : Option String
  temperature : Option Float
  maxTokens : Option (Option Nat)
deriving Inhabited

namespace Seen

def empty : Seen := ⟨none, none, none, none⟩

/-- Was a field read already? -/
def has (f : Field) (seen : Seen) : Bool :=
  match f with
  | .prompt => seen.prompt.isSome
  | .model => seen.model.isSome
  | .temperature => seen.temperature.isSome
  | .maxTokens => seen.maxTokens.isSome

/-- The string that a value is. -/
def asText : Head → Except Mismatch String
  | .string s => .ok s
  | v => .error (.kind v .text)

/-- The float that a number is, whole or not. -/
def asFloat : Head → Except Mismatch Float
  | .number (.int n) => .ok (Float.ofInt n)
  | .number (.float x) => .ok x
  | v => .error (.kind v .float)

/-- The count that a whole number of 32 bits is; null is no count. -/
def asCount? : Head → Except Mismatch (Option Nat)
  | .null => .ok none
  | .number (.int n) => if 0 ≤ n ∧ n < 0x100000000 then .ok (some n.toNat) else .error (.range n)
  | v => .error (.kind v .count)

/-- Takes a value for a field. -/
def take (f : Field) (v : Head) (seen : Seen) : Except Mismatch Seen :=
  match f with
  | .prompt => (asText v).map fun s => { seen with prompt := some s }
  | .model => (asText v).map fun s => { seen with model := some s }
  | .temperature => (asFloat v).map fun x => { seen with temperature := some x }
  | .maxTokens => (asCount? v).map fun n => { seen with maxTokens := some n }

/-- The request of the fields; `lacking` names the problem of a field that
has no default. -/
def finish (lacking : Field → Mismatch) (seen : Seen) : Except Error Request :=
  match seen.prompt, seen.model with
  | none, _ => .error (.mismatch none (lacking .prompt))
  | some _, none => .error (.mismatch none (lacking .model))
  | some prompt, some model =>
      .ok { prompt, model
            temperature := seen.temperature.getD Request.defaultTemperature
            maxTokens := seen.maxTokens.getD none }

end Seen

/-- Reads the value of a field at a place. -/
def readField (place : Place) (f : Field) (seen : Seen) (s : Source) :
    Except Error (Seen × Source) :=
  match Head.read (Source.blanks s) with
  | none => .error .malformed
  | some (v, rest) =>
      match seen.take f v with
      | .ok seen => .ok (seen, rest)
      | .error m => .error (.mismatch (some place) m)

/-- The text after a colon. -/
def colon? (s : Source) : Option Source :=
  match Source.blanks s with
  | some ':' :: rest => some rest
  | _ => none

/-- Reads a member whose name has been read: the value of a field that was
not there before, or a value that is passed over. -/
def readMember (name : String) (seen : Seen) (s : Source) : Except Error (Seen × Source) :=
  match Field.ofName? name with
  | some f =>
      if seen.has f then .error (.mismatch none (.duplicate f))
      else
        match colon? s with
        | some rest => readField (.field f) f seen rest
        | none => .error .malformed
  | none =>
      match (colon? s).bind Source.skip with
      | some rest => .ok (seen, rest)
      | none => .error .malformed

theorem length_readField_lt {place : Place} {f : Field} {seen seen' : Seen}
    {s rest : Source} (h : readField place f seen s = .ok (seen', rest)) :
    rest.length < s.length := by
  unfold readField at h
  split at h
  · simp at h
  · next hv =>
    split at h
    · simp only [Except.ok.injEq, Prod.mk.injEq] at h
      obtain ⟨-, rfl⟩ := h
      have := Json.Head.length_read_lt hv
      have := Source.length_blanks_le s
      omega
    · simp at h

theorem length_colon?_lt {s rest : Source} (h : colon? s = some rest) :
    rest.length < s.length := by
  unfold colon? at h
  split at h
  · next hb =>
    simp only [Option.some.injEq] at h
    exact h ▸ Source.length_lt_of_blanks hb
  · simp at h

theorem length_readMember_le {name : String} {seen seen' : Seen} {s rest : Source}
    (h : readMember name seen s = .ok (seen', rest)) : rest.length ≤ s.length := by
  unfold readMember at h
  split at h
  · split at h
    · simp at h
    · split at h
      · next hc =>
        have := length_colon?_lt hc
        have := length_readField_lt h
        omega
      · simp at h
  · split at h
    · next hs =>
      simp only [Except.ok.injEq, Prod.mk.injEq] at h
      obtain ⟨-, rfl⟩ := h
      simp only [Option.bind_eq_some_iff] at hs
      obtain ⟨r, hc, hs⟩ := hs
      have := length_colon?_lt hc
      have := Source.length_skip_le hs
      omega
    · simp at h

-- ============================================================ containers

set_option linter.unusedVariables false in
/-- Reads members up to the end of the object; a name has to come. -/
def readMembers (seen : Seen) (s : Source) : Except Error (Request × Source) :=
  match hb : Source.blanks s with
  | some '"' :: rest =>
      match hn : Source.string rest with
      | none => .error .malformed
      | some (name, rest₁) =>
          match hm : readMember name seen rest₁ with
          | .error e => .error e
          | .ok (seen, rest₂) =>
              match hc : Source.blanks rest₂ with
              | some ',' :: rest₃ => readMembers seen rest₃
              | some '\x7d' :: rest₃ => (seen.finish .missing).map (·, rest₃)
              | _ => .error .malformed
  | _ => .error .malformed
termination_by s.length
decreasing_by
  have := Source.length_lt_of_blanks hb
  have := Source.length_string_lt hn
  have := length_readMember_le hm
  have := Source.length_lt_of_blanks hc
  omega

/-- Reads an object whose bracket has been read. -/
def readObject (s : Source) : Except Error (Request × Source) :=
  match Source.blanks s with
  | some '\x7d' :: rest => (Seen.empty.finish .missing).map (·, rest)
  | _ => readMembers .empty s

/-- The problem of a list that ends before a field. -/
def tooShort : Field → Mismatch
  | .prompt => .length 0
  | _ => .length 1

/-- Reads the fields that are left, the first of them in place `index`,
up to the end of the list. -/
def readItems : (fields : List Field) → (index : Nat) → Seen → Source →
    Except Error (Request × Source)
  | fields, index, seen, s =>
      match Source.blanks s with
      | some ']' :: rest => (seen.finish tooShort).map (·, rest)
      | s =>
          match fields with
          | [] => .error .malformed
          | f :: fields =>
              let value? : Option Source :=
                if index = 0 then some s
                else
                  match s with
                  | some ',' :: rest => some rest
                  | _ => none
              match value? with
              | none => .error .malformed
              | some s =>
                  match readField (.item index) f seen s with
                  | .error e => .error e
                  | .ok (seen, rest) => readItems fields (index + 1) seen rest

/-- Reads a request from the front of a text. -/
def read (s : Source) : Except Error (Request × Source) :=
  match Head.read (Source.blanks s) with
  | none => .error .malformed
  | some (.object, rest) => readObject rest
  | some (.list, rest) => readItems Field.all 0 .empty rest
  | some (v, _) => .error (.mismatch none (.kind v .request))

/-- The request that is the whole of a text. -/
def ofText (s : String) : Except Error Request :=
  match read (Source.ofString s) with
  | .error e => .error e
  | .ok (r, rest) => if (Source.blanks rest).isEmpty then .ok r else .error .malformed

/-- The request at the front of a list of bytes. -/
def ofBytes (bs : List UInt8) : Except Error Request :=
  (read (Text.Utf8.decode bs)).map Prod.fst

end TenantGate.Execution.RequestText
