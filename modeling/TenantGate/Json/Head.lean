/-
What a value is, as far as one look tells: a value without parts is
read, and of a list or an object only the bracket is seen. This is all
that is needed to take a value or to say why it cannot be taken.
-/
import TenantGate.Json.Basic
import TenantGate.Json.Source
import TenantGate.Text.Escaped

namespace TenantGate.Json

/-- A value without parts, or the start of a container. -/
inductive Head where
  | null
  | bool (b : Bool)
  | number (n : Number)
  | string (s : String)
  | list
  | object
deriving Inhabited

namespace Head

/-- What stands at the front of a text. -/
def read (s : Source) : Option (Head × Source) :=
  match s with
  | some 'n' :: _ => (Source.word? "null".toList s).map (null, ·)
  | some 't' :: _ => (Source.word? "true".toList s).map (bool true, ·)
  | some 'f' :: _ => (Source.word? "false".toList s).map (bool false, ·)
  | some '"' :: rest => (Source.string rest).map fun (t, rest) => (string t, rest)
  | some '[' :: rest => some (list, rest)
  | some '\x7b' :: rest => some (object, rest)
  | _ =>
      match Numeral.scan s with
      | some (n, rest) => n.value?.map fun v => (number v, rest)
      | none => none

/-- A value as messages name it. -/
def describe : Head → String
  | null => "null"
  | bool b => "boolean `" ++ (if b then "true" else "false") ++ "`"
  | number (.int n) => "integer `" ++ toString n ++ "`"
  | number (.float x) => "floating point `" ++ writeFloat x ++ "`"
  | string s => "string " ++ Text.Escaped.quote s
  | list => "sequence"
  | object => "map"

/-- A look takes at least one character. -/
theorem length_read_lt {s rest : Source} {v : Head} (h : read s = some (v, rest)) :
    rest.length < s.length := by
  have word : ∀ {w : List Char} {v' : Head}, w ≠ [] →
      (Source.word? w s).map (v', ·) = some (v, rest) → rest.length < s.length := by
    intro w v' hw h
    simp only [Option.map_eq_some_iff, Prod.mk.injEq] at h
    obtain ⟨r, hr, -, rfl⟩ := h
    exact Source.length_word?_lt hw hr
  unfold read at h
  split at h
  · exact word (by decide) h
  · exact word (by decide) h
  · exact word (by decide) h
  · next r =>
    simp only [Option.map_eq_some_iff] at h
    obtain ⟨⟨t, r'⟩, hr, e⟩ := h
    simp only [Prod.mk.injEq] at e
    have := Source.length_string_lt hr
    simp only [List.length_cons, ← e.2]
    omega
  · simp only [Option.some.injEq, Prod.mk.injEq] at h
    simp [h.2]
  · simp only [Option.some.injEq, Prod.mk.injEq] at h
    simp [h.2]
  · split at h
    · next hs =>
      simp only [Option.map_eq_some_iff, Prod.mk.injEq] at h
      obtain ⟨_, -, -, rfl⟩ := h
      exact Numeral.length_scan_lt hs
    · simp at h

end Head

end TenantGate.Json
