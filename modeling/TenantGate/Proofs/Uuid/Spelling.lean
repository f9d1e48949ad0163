/-
The spellings of an identifier, and the window that they name.

# Spellings

An identifier has one list of 32 digits. `Spells` says without a reader
what its texts are: those digits, each in either case, bare or with hyphens,
and with hyphens also between braces or after `urn:uuid:`. The reader takes
exactly these texts (`ofText?_eq_some_iff`).

# Windows

A window is named by the one text in which its tenant is written. So texts
name one window exactly if they spell one identifier
(`ofTenant_eq_iff_spelled`).
-/
import TenantGate.Proofs.Limit.Deployment
import TenantGate.Proofs.Text.Hex

namespace TenantGate

-- =========================================================== spellings

namespace Uuid

open Text

variable {id : Uuid} {cs ds : List Char}

/-- The texts that 32 digits can be laid out as. -/
inductive Layout (ds : List Char) : List Char → Prop
  | bare : Layout ds ds
  | hyphenated : Layout ds (hyphenate groups ds)
  | braced : Layout ds ('\x7b' :: (hyphenate groups ds ++ ['\x7d']))
  | urn {head : List Char} (named : head.map Char.toLower = "urn:uuid:".toList) :
      Layout ds (head ++ hyphenate groups ds)

/-- A text spells an identifier if it lays out its digits, each in either
case. -/
def Spells (s : String) (id : Uuid) : Prop :=
  ∃ ds, ds.map Char.toLower = id.digits ∧ Layout ds s.toList

theorem length_of_lower (same : ds.map Char.toLower = id.digits) : ds.length = 32 := by
  rw [← List.length_map Char.toLower, same, length_digits]

theorem length_hyphenate (long : ds.length = 32) : (hyphenate groups ds).length = 36 := by
  simp [hyphenate, groups, long]

theorem ofDigits?_eq_some_iff : ofDigits? ds = some id ↔ ds.map Char.toLower = id.digits := by
  have all : Hex.bound 32 = 0x100000000000000000000000000000000 := by decide
  unfold ofDigits?
  by_cases long : ds.length = 32
  · rw [if_pos long, Option.map_eq_some_iff]
    constructor
    · rintro ⟨n, read, rfl⟩
      obtain ⟨below, digits⟩ := Hex.read?_eq_some_iff.1 read
      rw [long, all] at below
      rw [digits, long]
      show _ = Hex.padded Hex.digit 32 (n % _)
      rw [Nat.mod_eq_of_lt below]
    · intro same
      refine ⟨id.value, Hex.read?_eq_some_iff.2 ⟨?_, ?_⟩, ofNat_value id⟩
      · rw [long, all]
        exact id.value_lt
      · rw [long]
        exact same
  · rw [if_neg long]
    exact iff_of_false nofun fun same => long (length_of_lower same)

theorem ofHyphenated?_eq_some_iff :
    ofHyphenated? cs = some id
      ↔ ∃ ds, ds.map Char.toLower = id.digits ∧ cs = hyphenate groups ds := by
  unfold ofHyphenated?
  rw [Option.bind_eq_some_iff]
  constructor
  · rintro ⟨ds, hyphens, digits⟩
    exact ⟨ds, ofDigits?_eq_some_iff.1 digits, eq_hyphenate_of_unhyphenate? hyphens⟩
  · rintro ⟨ds, same, rfl⟩
    refine ⟨ds, unhyphenate?_hyphenate ?_, ofDigits?_eq_some_iff.2 same⟩
    simp [groups, length_of_lower same]

/-- What stands between two braces. -/
theorem eq_braced {cs : List Char} (long : cs.length = 38) (first : cs.head? = some '\x7b')
    (last : cs.getLast? = some '\x7d') :
    cs = '\x7b' :: ((cs.drop 1).take 36 ++ ['\x7d']) := by
  obtain ⟨front, rfl⟩ := List.getLast?_eq_some_iff.1 last
  cases front with
  | nil => cases long
  | cons c inner =>
      have brace : c = '\x7b' := by simpa using first
      have size : inner.length = 36 := by simpa using long
      subst brace
      simp [← size]

/-- The reader looks inside what may be around a hyphenated text. -/
theorem ofChars?_eq_some_iff :
    ofChars? cs = some id ↔ ∃ ds, ds.map Char.toLower = id.digits ∧ Layout ds cs := by
  constructor
  · intro read
    unfold ofChars? at read
    split at read
    next => exact ⟨cs, ofDigits?_eq_some_iff.1 read, .bare⟩
    next =>
      obtain ⟨ds, same, inside⟩ := ofHyphenated?_eq_some_iff.1 read
      refine ⟨ds, same, ?_⟩
      unfold unwrap at inside
      split at inside
      next braces =>
        rw [eq_braced braces.1 braces.2.1 braces.2.2, inside]
        exact .braced
      next =>
        split at inside
        next named =>
          rw [← List.take_append_drop 9 cs, inside]
          exact .urn named.2
        next =>
          rw [inside]
          exact .hyphenated
  · rintro ⟨ds, same, layout⟩
    have long := length_of_lower same
    have size := length_hyphenate long
    have inside : ∀ {cs}, cs.length ≠ 32 → unwrap cs = hyphenate groups ds →
        ofChars? cs = some id := by
      intro cs other unwrapped
      rw [ofChars?, if_neg other, unwrapped]
      exact ofHyphenated?_eq_some_iff.2 ⟨ds, same, rfl⟩
    cases layout with
    | bare =>
        rw [ofChars?, if_pos long]
        exact ofDigits?_eq_some_iff.2 same
    | hyphenated => exact inside (by omega) (by simp [unwrap, size])
    | braced =>
        have last : ('\x7b' :: (hyphenate groups ds ++ ['\x7d'])).getLast? = some '\x7d' :=
          List.getLast?_concat (a := '\x7d') (l := '\x7b' :: hyphenate groups ds)
        exact inside (by simp [size]) (by simp [unwrap, size, last])
    | @urn head named =>
        have nine : head.length = 9 := by
          rw [← List.length_map Char.toLower, named]
          rfl
        refine inside (by simp [size, nine]) ?_
        have whole : (head ++ hyphenate groups ds).length = 45 := by simp [size, nine]
        have urn : ((head ++ hyphenate groups ds).take 9).map Char.toLower = urnHead := by
          rw [List.take_left' nine]
          exact named
        rw [unwrap, if_neg (by omega), if_pos ⟨whole, urn⟩]
        exact List.drop_left' nine

/-- The texts of an identifier are read as it, and no other text is. -/
theorem ofText?_eq_some_iff {s : String} : ofText? s = some id ↔ Spells s id :=
  ofChars?_eq_some_iff

end Uuid

-- ============================================================= windows

namespace Limit

open Uuid (Spells)

/-- Texts of tenants name one window exactly if they spell one identifier,
and what stands in the name of a window is a text of its tenant. -/
theorem Key.ofTenant_eq_iff_spelled :
    (∀ s id, Uuid.ofText? s = some id ↔ Spells s id)
      ∧ (∀ s t a b, Uuid.ofText? s = some a → Uuid.ofText? t = some b →
        (Key.ofTenant a = Key.ofTenant b ↔ ∃ id, Spells s id ∧ Spells t id))
      ∧ ∀ id, ∃ text, (Key.ofTenant id).text = "ratelimit:" ++ text
        ∧ Spells text id ∧ Uuid.ofText? text = some id := by
  refine ⟨fun s id => Uuid.ofText?_eq_some_iff, fun s t a b first second => ?_, fun id => ?_⟩
  · constructor
    · intro same
      have := Key.ofTenant_injective same
      subst this
      exact ⟨a, Uuid.ofText?_eq_some_iff.1 first, Uuid.ofText?_eq_some_iff.1 second⟩
    · rintro ⟨id, one, other⟩
      have left := first.symm.trans (Uuid.ofText?_eq_some_iff.2 one)
      have right := second.symm.trans (Uuid.ofText?_eq_some_iff.2 other)
      rw [Option.some.inj left, Option.some.inj right]
  · have read := Uuid.ofText?_text id
    exact ⟨id.text, rfl, Uuid.ofText?_eq_some_iff.1 read, read⟩

/-- Braces and capitals do not make a second window, and another digit
does. -/
theorem Key.ofTenant_eq_iff_spelled_in_capitals :
    let s := "urn:uuid:0b7c6f4e-52a1-4d7e-9a43-3f1f2c9d8e77"
    let t := "\x7b0B7C6F4E-52A1-4D7E-9A43-3F1F2C9D8E77\x7d"
    let u := "0b7c6f4e52a14d7e9a433f1f2c9d8e78"
    ∃ a b c, Uuid.ofText? s = some a ∧ Uuid.ofText? t = some b ∧ Uuid.ofText? u = some c
      ∧ Key.ofTenant a = Key.ofTenant b ∧ Key.ofTenant a ≠ Key.ofTenant c
      ∧ (Spells s a ∧ Spells t a) ∧ ¬ ∃ id, Spells s id ∧ Spells u id := by
  intro s t u
  let a : Uuid := .ofNat 0x0b7c6f4e52a14d7e9a433f1f2c9d8e77
  let c : Uuid := .ofNat 0x0b7c6f4e52a14d7e9a433f1f2c9d8e78
  have first : Uuid.ofText? s = some a := by decide +kernel
  have second : Uuid.ofText? t = some a := by decide +kernel
  have third : Uuid.ofText? u = some c := by decide +kernel
  obtain ⟨spelled, windows, -⟩ := Key.ofTenant_eq_iff_spelled
  have apart : Key.ofTenant a ≠ Key.ofTenant c := by decide +kernel
  have spells := (spelled s a).1 first
  have spells' := (spelled t a).1 second
  have one := (windows s t a a first second).2 ⟨a, spells, spells'⟩
  exact ⟨a, a, c, first, second, third, one, apart, ⟨spells, spells'⟩,
    fun both => apart ((windows s u a c first third).2 both)⟩

end Limit

end TenantGate
