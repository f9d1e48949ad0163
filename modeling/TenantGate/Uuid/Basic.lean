/-
Identifiers of 128 bits and their texts.

An identifier is written in lower case with hyphens after the 8th,
12th, 16th and 20th digit. It is read from that form, also between
braces or after `urn:uuid:`, or from its 32 digits alone, in any case;
`ofText?_text` says that what is written is read back.
-/
import TenantGate.Text.Hex

namespace TenantGate

/-- An identifier of 128 bits. -/
structure Uuid where
  value : Nat
  value_lt : value < 0x100000000000000000000000000000000
deriving DecidableEq

namespace Uuid

open Text

instance : Inhabited Uuid := ⟨⟨0, by decide⟩⟩

/-- The identifier of the last 128 bits of a number. -/
def ofNat (n : Nat) : Uuid := ⟨n % 0x100000000000000000000000000000000, Nat.mod_lt _ (by decide)⟩

/-- The 32 digits, most significant first. -/
def digits (id : Uuid) : List Char := Hex.padded Hex.digit 32 id.value

/-- The sixteen bytes, most significant first. -/
def bytes (id : Uuid) : List UInt8 :=
  (List.range 16).map fun i => UInt8.ofNat (id.value / Nat.pow 256 (15 - i))

/-- Writes a hyphen after each group; `sizes` counts the characters of
all groups but the last. -/
def hyphenate : (sizes : List Nat) → List Char → List Char
  | [], cs => cs
  | n :: sizes, cs => cs.take n ++ '-' :: hyphenate sizes (cs.drop n)

/-- Takes the hyphens out again, if they are where they belong. -/
def unhyphenate? : (sizes : List Nat) → List Char → Option (List Char)
  | [], cs => some cs
  | n :: sizes, cs =>
      match cs.drop n with
      | '-' :: rest => (unhyphenate? sizes rest).map (cs.take n ++ ·)
      | _ => none

/-- The groups of a text before its last one. -/
def groups : List Nat := [8, 4, 4, 4]

/-- The text of an identifier. -/
def text (id : Uuid) : String := String.ofList (hyphenate groups id.digits)

/-- The identifier of 32 digits. -/
def ofDigits? (cs : List Char) : Option Uuid :=
  if cs.length = 32 then (Hex.read? cs).map ofNat else none

/-- The identifier that a hyphenated text spells. -/
def ofHyphenated? (cs : List Char) : Option Uuid :=
  (unhyphenate? groups cs).bind ofDigits?

/-- What may stand before a hyphenated text, in any case. -/
def urnHead : List Char := "urn:uuid:".toList

/-- What a text holds inside braces or after `urn:uuid:`. -/
def unwrap (cs : List Char) : List Char :=
  if cs.length = 38 ∧ cs.head? = some '\x7b' ∧ cs.getLast? = some '\x7d' then
    (cs.drop 1).take 36
  else if cs.length = 45 ∧ (cs.take 9).map Char.toLower = urnHead then cs.drop 9
  else cs

/-- The identifier that a text spells. -/
def ofChars? (cs : List Char) : Option Uuid :=
  if cs.length = 32 then ofDigits? cs else ofHyphenated? (unwrap cs)

/-- The identifier that a text spells. -/
def ofText? (s : String) : Option Uuid := ofChars? s.toList

-- ============================================================= facts

@[simp] theorem length_digits (id : Uuid) : id.digits.length = 32 := by
  simp [digits]

@[simp] theorem ofNat_value (id : Uuid) : ofNat id.value = id := by
  obtain ⟨n, h⟩ := id
  simp only [ofNat, Nat.mod_eq_of_lt h]

theorem ofDigits?_digits (id : Uuid) : ofDigits? id.digits = some id := by
  rw [ofDigits?, if_pos id.length_digits, digits, @Hex.read?_padded 32 _ id.value_lt]
  simp

theorem unhyphenate?_hyphenate {sizes : List Nat} {cs : List Char}
    (enough : sizes.foldr (· + ·) 0 ≤ cs.length) :
    unhyphenate? sizes (hyphenate sizes cs) = some cs := by
  induction sizes generalizing cs with
  | nil => rfl
  | cons n sizes ih =>
    rw [List.foldr_cons] at enough
    have len : (cs.take n).length = n := by simp; omega
    have drop : (hyphenate (n :: sizes) cs).drop n
        = '-' :: hyphenate sizes (cs.drop n) := by
      rw [hyphenate, List.drop_append, len, Nat.sub_self, List.drop_zero,
        List.drop_eq_nil_of_le (Nat.le_of_eq len), List.nil_append]
    have take : (hyphenate (n :: sizes) cs).take n = cs.take n := by
      rw [hyphenate, List.take_append, len, Nat.sub_self, List.take_zero,
        List.append_nil, List.take_of_length_le (Nat.le_of_eq len)]
    have rest : sizes.foldr (· + ·) 0 ≤ (cs.drop n).length := by
      rw [List.length_drop]
      omega
    simp only [unhyphenate?, drop, take, ih rest, Option.map_some,
      List.take_append_drop]

/-- Only a hyphenated list has its hyphens taken out. -/
theorem eq_hyphenate_of_unhyphenate? {sizes : List Nat} {cs ds : List Char}
    (h : unhyphenate? sizes cs = some ds) : cs = hyphenate sizes ds := by
  induction sizes generalizing cs ds with
  | nil => simpa [unhyphenate?, hyphenate] using h
  | cons n sizes ih =>
    simp only [unhyphenate?] at h
    split at h
    · next rest hrest =>
      obtain ⟨ds', hds, rfl⟩ := Option.map_eq_some_iff.1 h
      have len : (cs.take n).length = n := by
        have := congrArg List.length hrest
        simp at this ⊢
        omega
      rw [hyphenate, List.take_append, List.drop_append, len, Nat.sub_self,
        List.take_zero, List.append_nil, List.drop_zero,
        List.drop_eq_nil_of_le (Nat.le_of_eq len), List.nil_append,
        List.take_of_length_le (Nat.le_of_eq len), ← ih hds, ← hrest,
        List.take_append_drop]
    · simp at h

/-- What is written is read back. -/
theorem ofText?_text (id : Uuid) : ofText? id.text = some id := by
  have length : (hyphenate groups id.digits).length = 36 := by
    simp [hyphenate, groups]
  have plain : unwrap (hyphenate groups id.digits) = hyphenate groups id.digits := by
    simp [unwrap, length]
  rw [ofText?, text, String.toList_ofList, ofChars?, if_neg (by simp [length]), plain,
    ofHyphenated?, unhyphenate?_hyphenate (by simp [groups]), Option.bind_some,
    ofDigits?_digits]

end Uuid

end TenantGate
