/-
JSON texts as values. The members of an object keep their order, also
those of one name. Every step of the reader takes a character or enters
a container, so twice the length of the text is fuel enough.
-/
import TenantGate.Json.Head

namespace TenantGate.Json

open Source (blanks)

mutual

/-- The value at the front of a text. -/
def readValue? : (fuel : Nat) → Source → Option (Json × Source)
  | 0, _ => none
  | fuel + 1, s =>
      match Head.read (blanks s) with
      | none => none
      | some (.null, rest) => some (null, rest)
      | some (.bool b, rest) => some (bool b, rest)
      | some (.number (.int n), rest) => some (int n, rest)
      | some (.number (.float x), rest) => some (float x, rest)
      | some (.string t, rest) => some (string t, rest)
      | some (.list, rest) =>
          match blanks rest with
          | some ']' :: rest => some (array [], rest)
          | _ => readItems? fuel [] rest
      | some (.object, rest) =>
          match blanks rest with
          | some '\x7d' :: rest => some (object [], rest)
          | _ => readMembers? fuel [] rest

/-- The list whose items so far are `done`, the last one first. -/
def readItems? : (fuel : Nat) → (done : List Json) → Source → Option (Json × Source)
  | 0, _, _ => none
  | fuel + 1, done, s =>
      match readValue? fuel s with
      | none => none
      | some (v, rest) =>
          match blanks rest with
          | some ',' :: rest => readItems? fuel (v :: done) rest
          | some ']' :: rest => some (array (v :: done).reverse, rest)
          | _ => none

/-- The object whose members so far are `done`, the last one first. -/
def readMembers? : (fuel : Nat) → (done : List (String × Json)) → Source →
    Option (Json × Source)
  | 0, _, _ => none
  | fuel + 1, done, s =>
      match blanks s with
      | some '"' :: rest =>
          match Source.string rest with
          | none => none
          | some (name, rest) =>
              match blanks rest with
              | some ':' :: rest =>
                  match readValue? fuel rest with
                  | none => none
                  | some (v, rest) =>
                      match blanks rest with
                      | some ',' :: rest => readMembers? fuel ((name, v) :: done) rest
                      | some '\x7d' :: rest => some (object ((name, v) :: done).reverse, rest)
                      | _ => none
              | _ => none
      | _ => none

end

/-- The value that is the whole of a text. -/
def ofText? (s : String) : Option Json :=
  let text := Source.ofString s
  match readValue? (2 * text.length + 2) text with
  | some (v, rest) => if (blanks rest).isEmpty then some v else none
  | none => none

/-- The value of the first member of a name. -/
def member? (name : String) : Json → Option Json
  | object ms => (ms.find? fun m => m.1 = name).map Prod.snd
  | _ => none

end TenantGate.Json
