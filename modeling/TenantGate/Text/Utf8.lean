/-
Bytes as characters. Bytes that spell characters are decoded, and every
byte that belongs to none is kept as a place without a character, so
that a reader can pass over it or stop at it. Only the shortest spelling
of a character counts, and surrogates have none.
-/
namespace TenantGate.Text.Utf8

/-- The last six bits of a byte that continues a character. -/
def tail? (b : UInt8) : Option Nat :=
  if 0x80 ≤ b ∧ b < 0xC0 then some (b.toNat - 0x80) else none

/-- The character that two bytes spell. -/
def two? (a b : UInt8) : Option Char :=
  if 0xC2 ≤ a ∧ a < 0xE0 then
    (tail? b).map fun y => Char.ofNat (64 * (a.toNat - 0xC0) + y)
  else none

/-- The character that three bytes spell. -/
def three? (a b c : UInt8) : Option Char :=
  if 0xE0 ≤ a ∧ a < 0xF0 then
    match tail? b, tail? c with
    | some y, some z =>
        let n := 64 * (64 * (a.toNat - 0xE0) + y) + z
        if 0x800 ≤ n ∧ ¬(0xD800 ≤ n ∧ n < 0xE000) then some (Char.ofNat n) else none
    | _, _ => none
  else none

/-- The character that four bytes spell. -/
def four? (a b c d : UInt8) : Option Char :=
  if 0xF0 ≤ a ∧ a < 0xF5 then
    match tail? b, tail? c, tail? d with
    | some x, some y, some z =>
        let n := 64 * (64 * (64 * (a.toNat - 0xF0) + x) + y) + z
        if 0x10000 ≤ n ∧ n < 0x110000 then some (Char.ofNat n) else none
    | _, _, _ => none
  else none

/-- The first character of a list of bytes and how many more bytes than
one it takes. -/
def first : List UInt8 → Option (Option Char × Nat)
  | [] => none
  | a :: rest =>
      if a < 0x80 then some (some (Char.ofNat a.toNat), 0)
      else
        let long : Option (Char × Nat) := match rest with
          | b :: c :: d :: _ =>
              ((two? a b).map (·, 1)) <|> ((three? a b c).map (·, 2))
                <|> ((four? a b c d).map (·, 3))
          | [b, c] => ((two? a b).map (·, 1)) <|> ((three? a b c).map (·, 2))
          | [b] => (two? a b).map (·, 1)
          | [] => none
        match long with
        | some (c, n) => some (some c, n)
        | none => some (none, 0)

/-- Goes on after `acc`, which has the last place first. -/
def decodeOnto (acc : List (Option Char)) (bs : List UInt8) : List (Option Char) :=
  match bs with
  | [] => acc.reverse
  | b :: rest =>
      match first (b :: rest) with
      | some (c, n) => decodeOnto (c :: acc) (rest.drop n)
      | none => acc.reverse
termination_by bs.length
decreasing_by
  simp only [List.length_drop, List.length_cons]
  omega

/-- The characters of a list of bytes, and the places without one. -/
def decode (bs : List UInt8) : List (Option Char) := decodeOnto [] bs

/-- The text of a list of bytes, if all of them spell characters. -/
def text? (bs : List UInt8) : Option String :=
  let cs := decode bs
  if cs.all Option.isSome then some (String.ofList (cs.filterMap id)) else none

end TenantGate.Text.Utf8
