/-
Reading JSON from the front of a text.

Each reader takes what it reads from the front and gives the rest; a
text that is malformed gives nothing. Strings that are used must spell
characters throughout; strings that are passed over need only end. A
value that is passed over may nest without limit, so the containers
that are open are kept in a list and not in the recursion.
-/
import TenantGate.Json.Numeral
import TenantGate.Text.Hex

namespace TenantGate.Json

/-- A text, from the front. -/
abbrev Source := List Symbol

namespace Source

/-- A text of characters. -/
def ofString (s : String) : Source := s.toList.map some

/-- Is a place one of the four blanks between values? -/
def isBlank : Symbol → Bool
  | some c => c = ' ' || c = '\n' || c = '\t' || c = '\r'
  | none => false

/-- The text after its blanks. -/
def blanks (s : Source) : Source := s.dropWhile isBlank

/-- The text after a word that must stand at its front. -/
def word? (w : List Char) (s : Source) : Option Source :=
  if w.map some = s.take w.length then some (s.drop w.length) else none

-- ============================================================= strings

/-- The value of four hexadecimal digits. -/
def hex4? : Source → Option (Nat × Source)
  | some a :: some b :: some c :: some d :: rest =>
      (Text.Hex.read? [a, b, c, d]).map (·, rest)
  | _ => none

/-- The character of an escape by one letter. -/
def escape? (c : Char) : Option Char :=
  if c = '"' then some '"'
  else if c = '\\' then some '\\'
  else if c = '/' then some '/'
  else if c = 'b' then some '\x08'
  else if c = 'f' then some '\x0c'
  else if c = 'n' then some '\n'
  else if c = 'r' then some '\r'
  else if c = 't' then some '\t'
  else none

/-- The character of an escape by number, of which the first four digits
are read: a number from the surrogates must be the first half of a pair,
whose other half follows in an escape of its own. -/
def pair? (n : Nat) (s : Source) : Option (Char × Source) :=
  if n < 0xD800 ∨ 0xE000 ≤ n then some (Char.ofNat n, s)
  else if 0xDC00 ≤ n then none
  else
    match s with
    | some '\\' :: some 'u' :: rest =>
        match hex4? rest with
        | some (m, rest) =>
            if 0xDC00 ≤ m ∧ m < 0xE000 then
              some (Char.ofNat (0x10000 + 0x400 * (n - 0xD800) + (m - 0xDC00)), rest)
            else none
        | none => none
    | _ => none

theorem length_hex4?_lt {s rest : Source} {n : Nat} (h : hex4? s = some (n, rest)) :
    rest.length < s.length := by
  unfold hex4? at h
  split at h
  · simp only [Option.map_eq_some_iff, Prod.mk.injEq] at h
    obtain ⟨_, -, -, rfl⟩ := h
    simp only [List.length_cons]
    omega
  · simp at h

theorem length_pair?_le {s rest : Source} {n : Nat} {c : Char}
    (h : pair? n s = some (c, rest)) : rest.length ≤ s.length := by
  unfold pair? at h
  split at h
  · simp only [Option.some.injEq, Prod.mk.injEq] at h
    simp [h.2]
  · split at h
    · simp at h
    · split at h
      · split at h
        · next hx =>
          split at h
          · simp only [Option.some.injEq, Prod.mk.injEq] at h
            obtain ⟨-, rfl⟩ := h
            have := length_hex4?_lt hx
            simp only [List.length_cons]
            omega
          · simp at h
        · simp at h
      · simp at h

set_option linter.unusedVariables false in
/-- The characters of a string up to its closing quote, after `acc` in
reverse; the opening quote has been read. -/
def stringOnto (acc : List Char) (s : Source) : Option (String × Source) :=
  match s with
  | some '"' :: rest => some (String.ofList acc.reverse, rest)
  | some '\\' :: some 'u' :: rest =>
      match hx : hex4? rest with
      | some (n, rest') =>
          match hp : pair? n rest' with
          | some (c, rest'') => stringOnto (c :: acc) rest''
          | none => none
      | none => none
  | some '\\' :: some c :: rest =>
      match escape? c with
      | some c => stringOnto (c :: acc) rest
      | none => none
  | some c :: rest => if c.toNat < 0x20 ∨ c = '\\' then none else stringOnto (c :: acc) rest
  | _ => none
termination_by s.length
decreasing_by
  · have := length_hex4?_lt hx
    have := length_pair?_le hp
    simp only [List.length_cons]
    omega
  · simp only [List.length_cons]
    omega
  · simp only [List.length_cons]
    omega

/-- A string, whose opening quote has been read. -/
def string (s : Source) : Option (String × Source) := stringOnto [] s

theorem length_stringOnto_lt {acc : List Char} {s rest : Source} {t : String}
    (h : stringOnto acc s = some (t, rest)) : rest.length < s.length := by
  fun_induction stringOnto acc s with
  | case1 acc rest' =>
    simp only [Option.some.injEq, Prod.mk.injEq] at h
    simp [h.2]
  | case2 acc rest₀ n rest₁ hx c rest₂ hp ih =>
    have := ih h
    have := length_hex4?_lt hx
    have := length_pair?_le hp
    simp only [List.length_cons]
    omega
  | case3 => simp at h
  | case4 => simp at h
  | case5 acc c rest₀ hne c' hc ih =>
    have := ih h
    simp only [List.length_cons]
    omega
  | case6 => simp at h
  | case7 => simp at h
  | case8 acc c rest₀ h₁ h₂ h₃ hc ih =>
    have := ih h
    simp only [List.length_cons]
    omega
  | case9 => simp at h

theorem length_string_lt {s rest : Source} {t : String} (h : string s = some (t, rest)) :
    rest.length < s.length :=
  length_stringOnto_lt h

/-- Is a place a hexadecimal digit? -/
def isHex : Symbol → Bool
  | some c => (Text.Hex.value? c).isSome
  | none => false

/-- What follows a string that is passed over; its opening quote has been
read. Any four digits make an escape here. -/
def skipString : Source → Option Source
  | some '"' :: rest => some rest
  | some '\\' :: some 'u' :: a :: b :: c :: d :: rest =>
      if isHex a && isHex b && isHex c && isHex d then skipString rest else none
  | some '\\' :: some c :: rest => if (escape? c).isSome then skipString rest else none
  | some c :: rest => if c.toNat < 0x20 ∨ c = '\\' then none else skipString rest
  | none :: rest => skipString rest
  | [] => none

theorem length_skipString_lt {s rest : Source} (h : skipString s = some rest) :
    rest.length < s.length := by
  fun_induction skipString s <;> simp_all <;> omega

-- ===================================================== values passed over

/-- What follows a value without parts. -/
def skipScalar (s : Source) : Option Source :=
  match s with
  | some 'n' :: _ => word? "null".toList s
  | some 't' :: _ => word? "true".toList s
  | some 'f' :: _ => word? "false".toList s
  | some '"' :: rest => skipString rest
  | _ => (Numeral.scan s).map Prod.snd

/-- What follows the name of a member and its colon. -/
def skipName (s : Source) : Option Source :=
  match blanks s with
  | some '"' :: rest =>
      match skipString rest with
      | some rest =>
          match blanks rest with
          | some ':' :: rest => some rest
          | _ => none
      | none => none
  | _ => none

/-- A container that is open. -/
inductive Bracket where
  | list
  | object
deriving DecidableEq, Inhabited

/-- What is to come while values are passed over: a value, or what may
stand after a value. -/
inductive Ahead where
  | value
  | separator
deriving DecidableEq, Inhabited

/-- Closes a container. -/
def Bracket.closes (b : Bracket) (c : Char) : Bool :=
  match b with
  | list => c = ']'
  | object => c = '\x7d'

theorem length_blanks_le (s : Source) : (blanks s).length ≤ s.length :=
  (List.dropWhile_suffix _).sublist.length_le

theorem length_lt_of_blanks {s rest : Source} {c : Symbol} (h : blanks s = c :: rest) :
    rest.length < s.length := by
  have := length_blanks_le s
  rw [h, List.length_cons] at this
  omega

theorem length_word?_lt {w : List Char} {s rest : Source} (hw : w ≠ [])
    (h : word? w s = some rest) : rest.length < s.length := by
  unfold word? at h
  split at h
  · next e =>
    simp only [Option.some.injEq] at h
    have len := congrArg List.length e
    have pos : 0 < w.length := List.length_pos_iff.2 hw
    simp only [List.length_map, List.length_take] at len
    simp only [← h, List.length_drop]
    omega
  · simp at h

theorem length_skipScalar_lt {s rest : Source} (h : skipScalar s = some rest) :
    rest.length < s.length := by
  unfold skipScalar at h
  split at h
  · exact length_word?_lt (by decide) h
  · exact length_word?_lt (by decide) h
  · exact length_word?_lt (by decide) h
  · have := length_skipString_lt h
    simp only [List.length_cons]
    omega
  · simp only [Option.map_eq_some_iff] at h
    obtain ⟨⟨n, r⟩, hs, rfl⟩ := h
    exact Numeral.length_scan_lt hs

theorem length_skipName_lt {s rest : Source} (h : skipName s = some rest) :
    rest.length < s.length := by
  unfold skipName at h
  have h₀ := length_blanks_le s
  split at h
  · next r hr =>
    rw [hr] at h₀
    simp only [List.length_cons] at h₀
    split at h
    · next r₁ hs =>
      have h₁ := length_skipString_lt hs
      have h₂ := length_blanks_le r₁
      split at h
      · next r₂ hb =>
        simp only [Option.some.injEq] at h
        rw [hb] at h₂
        simp only [List.length_cons] at h₂
        subst h
        omega
      · simp at h
    · simp at h
  · simp at h

set_option linter.unusedVariables false in
/-- What follows the values that are still open. -/
def skipFrom (ahead : Ahead) (stack : List Bracket) (s : Source) : Option Source :=
  match ahead with
  | .value =>
      match hb : blanks s with
      | some '[' :: rest =>
          match hc : blanks rest with
          | some ']' :: rest' => skipFrom .separator stack rest'
          | _ => skipFrom .value (.list :: stack) rest
      | some '\x7b' :: rest =>
          match hc : blanks rest with
          | some '\x7d' :: rest' => skipFrom .separator stack rest'
          | _ =>
              match hn : skipName rest with
              | some rest' => skipFrom .value (.object :: stack) rest'
              | none => none
      | s' =>
          match hs : skipScalar s' with
          | some rest => skipFrom .separator stack rest
          | none => none
  | .separator =>
      match stack with
      | [] => some s
      | bracket :: stack =>
          match hb : blanks s with
          | some c :: rest =>
              if bracket.closes c then skipFrom .separator stack rest
              else if c = ',' then
                match bracket with
                | .list => skipFrom .value (.list :: stack) rest
                | .object =>
                    match hn : skipName rest with
                    | some rest' => skipFrom .value (.object :: stack) rest'
                    | none => none
              else none
          | _ => none
termination_by s.length
decreasing_by
  · have := length_lt_of_blanks hb
    have := length_lt_of_blanks hc
    omega
  · exact length_lt_of_blanks hb
  · have := length_lt_of_blanks hb
    have := length_lt_of_blanks hc
    omega
  · have := length_lt_of_blanks hb
    have := length_skipName_lt hn
    omega
  · have le := length_blanks_le s
    have lt := length_skipScalar_lt hs
    rw [hb] at le
    omega
  · exact length_lt_of_blanks hb
  · exact length_lt_of_blanks hb
  · have := length_lt_of_blanks hb
    have := length_skipName_lt hn
    omega

/-- What follows a value that is passed over. -/
def skip (s : Source) : Option Source := skipFrom .value [] s

theorem length_skipFrom_le {ahead : Ahead} {stack : List Bracket} {s rest : Source}
    (h : skipFrom ahead stack s = some rest) : rest.length ≤ s.length := by
  fun_induction skipFrom ahead stack s with
  | case1 _ _ _ hb _ hc ih | case3 _ _ _ hb _ hc ih =>
    have := length_lt_of_blanks hb
    have := length_lt_of_blanks hc
    have := ih h
    omega
  | case2 _ _ _ hb _ ih | case9 _ _ _ _ _ hb _ ih | case10 _ _ _ hb _ ih =>
    have := length_lt_of_blanks hb
    have := ih h
    omega
  | case4 _ _ _ hb _ hn _ ih | case11 _ _ _ _ hn hb _ ih =>
    have := length_lt_of_blanks hb
    have := length_skipName_lt hn
    have := ih h
    omega
  | case6 _ s _ _ _ hs ih =>
    have := length_blanks_le s
    have := length_skipScalar_lt hs
    have := ih h
    omega
  | case8 => simp_all
  | case5 | case7 | case12 | case13 | case14 => simp at h

theorem length_skip_le {s rest : Source} (h : skip s = some rest) :
    rest.length ≤ s.length :=
  length_skipFrom_le h

end Source

end TenantGate.Json
