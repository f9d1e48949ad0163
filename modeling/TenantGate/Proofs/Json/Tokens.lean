/-
The readers of tokens on the texts of the grammar.

Each reader takes exactly the token at the front and leaves the rest. A
string ends with its own quote, but a numeral has no end of its own: what
follows it must not go on with it. `Before` says so with the characters
that may follow, which are fewer after each part of a numeral, down to
those that end a value (`Ends`).
-/
import TenantGate.Json.Head
import TenantGate.Proofs.Json.Grammar
import TenantGate.Proofs.Text.Hex

namespace TenantGate.Json

open Grammar

variable {c : Char} {cs : List Char} {s rest : Source}

-- ============================================================== blanks

namespace Source

theorem isBlank_iff : isBlank (some c) = true ↔ Blank c := by
  simp [isBlank, Blank, or_assoc]

@[simp] theorem blanks_append (h : Blanks cs) : blanks (cs.map some ++ s) = blanks s := by
  unfold blanks
  rw [List.dropWhile_append_of_pos]
  intro a ha
  obtain ⟨c, hc, rfl⟩ := List.mem_map.1 ha
  exact isBlank_iff.2 (h c hc)

@[simp] theorem blanks_of_not_blank (h : ¬Blank c) : blanks (some c :: rest) = some c :: rest :=
  List.dropWhile_cons_of_neg fun blank => h (isBlank_iff.1 blank)

theorem blanks_append_cons (h : Blanks cs) (hc : ¬Blank c) :
    blanks (cs.map some ++ some c :: rest) = some c :: rest := by
  rw [blanks_append h, blanks_of_not_blank hc]

-- ============================================================= strings

theorem escape?_of_mem {l : Char} (h : (l, c) ∈ letters) : escape? l = some c := by
  simp only [letters, List.mem_cons, Prod.mk.injEq, List.not_mem_nil, or_false] at h
  rcases h with h | h | h | h | h | h | h | h <;> obtain ⟨rfl, rfl⟩ := h <;> decide

theorem exists_of_quad {n : Nat} {q : List Char} (h : Quad n q) :
    ∃ a b c d, q = [a, b, c, d] ∧ Text.Hex.read? [a, b, c, d] = some n := by
  obtain ⟨small, digits⟩ := h
  have long : q.length = 4 := by
    rw [← List.length_map Char.toLower, digits, Text.Hex.length_padded]
  match q, long with
  | [a, b, c, d], _ => exact ⟨a, b, c, d, rfl, Text.Hex.read?_eq_some_iff.2 ⟨small, digits⟩⟩

theorem hex4?_quad {n : Nat} {q : List Char} (h : Quad n q) :
    hex4? (q.map some ++ rest) = some (n, rest) := by
  obtain ⟨a, b, c, d, rfl, read⟩ := exists_of_quad h
  simp [hex4?, read]

/-- A character is its own number, which is no surrogate. -/
theorem pair?_toNat : pair? c.toNat s = some (c, s) := by
  have valid : c.toNat < 0xD800 ∨ 0xDFFF < c.toNat ∧ c.toNat < 0x110000 := c.valid
  unfold pair?
  rw [if_pos (by omega), Char.ofNat_toNat]

theorem pair?_pair {high low : Nat} {r : List Char} (first : 0xD800 ≤ high ∧ high < 0xDC00)
    (second : 0xDC00 ≤ low ∧ low < 0xE000)
    (together : c.toNat = 0x10000 + 0x400 * (high - 0xD800) + (low - 0xDC00)) (hr : Quad low r) :
    pair? high (some '\\' :: some 'u' :: (r.map some ++ s)) = some (c, s) := by
  unfold pair?
  rw [if_neg (by omega), if_neg (by omega)]
  simp only [hex4?_quad hr, if_pos second, ← together, Char.ofNat_toNat]

theorem stringOnto_number {acc : List Char} {n : Nat} {r r' : Source}
    (hx : hex4? s = some (n, r)) (hp : pair? n r = some (c, r')) :
    stringOnto acc (some '\\' :: some 'u' :: s) = stringOnto (c :: acc) r' := by
  -- The reader keeps these equations for its termination, so nothing can be
  -- rewritten under them.
  rw [stringOnto]
  split
  · next hx' =>
    obtain ⟨rfl, rfl⟩ : _ = n ∧ _ = r := by simpa [hx] using hx'.symm
    split
    · next hp' =>
      obtain ⟨rfl, rfl⟩ : _ = c ∧ _ = r' := by simpa [hp] using hp'.symm
      rfl
    · next hp' => simp [hp] at hp'
  · next hx' => simp [hx] at hx'

/-- One character of a string is taken as a whole. -/
theorem stringOnto_spells {acc x : List Char} (h : Spells c x) :
    stringOnto acc (x.map some ++ s) = stringOnto (c :: acc) s := by
  cases h with
  | plain h =>
    obtain ⟨wide, quote, escape⟩ := h
    have narrow : ¬c.toNat < 0x20 := by omega
    simp [stringOnto, escape, narrow]
  | @letter l h =>
    have number : l ≠ 'u' := by
      rintro rfl
      simp [letters] at h
    simp [stringOnto, escape?_of_mem h]
  | number h => exact stringOnto_number (hex4?_quad h) pair?_toNat
  | pair first second together hq hr =>
    simp only [List.map_cons, List.map_append, List.cons_append, List.append_assoc]
    exact stringOnto_number (hex4?_quad hq) (pair?_pair first second together hr)

theorem stringOnto_inside {acc xs : List Char} (h : Inside cs xs) :
    stringOnto acc (xs.map some ++ some '"' :: rest)
      = some (String.ofList (acc.reverse ++ cs), rest) := by
  induction h generalizing acc with
  | nil => simp [stringOnto]
  | cons head tail ih =>
    rw [List.map_append, List.append_assoc, stringOnto_spells head, ih]
    simp

/-- A string is read up to its closing quote. -/
theorem string_of_quoted {t : String} (h : Quoted t cs) (rest : Source) :
    ∃ r, cs.map some ++ rest = some '"' :: r ∧ string r = some (t, rest) := by
  obtain @⟨xs, h⟩ := h
  refine ⟨xs.map some ++ some '"' :: rest, by simp, ?_⟩
  simp [string, stringOnto_inside h]

theorem skipString_piece {x : List Char} (h : Piece x) :
    skipString (x.map some ++ s) = skipString s := by
  cases h with
  | @plain c h =>
    obtain ⟨wide, quote, escape⟩ := h
    have narrow : ¬c.toNat < 0x20 := by omega
    simp [skipString, escape, narrow]
  | @letter l c h =>
    have number : l ≠ 'u' := by
      rintro rfl
      simp [letters] at h
    simp [skipString, number, escape?_of_mem h]
  | number h =>
    obtain ⟨a, b, c, d, rfl, read⟩ := exists_of_quad h
    simp only [Text.Hex.read?, Text.Hex.readFrom?, Option.bind_eq_some_iff] at read
    obtain ⟨w, hw, x, hx, y, hy, z, hz, -⟩ := read
    simp [skipString, isHex, hw, hx, hy, hz]

theorem skipString_loose (h : Loose cs) :
    ∃ xs, cs = '"' :: xs ∧ ∀ rest, skipString (xs.map some ++ rest) = some rest := by
  obtain @⟨pieces, all⟩ := h
  refine ⟨_, rfl, fun rest => ?_⟩
  induction pieces with
  | nil => simp [skipString]
  | cons x pieces ih =>
    obtain ⟨first, others⟩ := List.forall_mem_cons.1 all
    rw [List.flatten_cons, List.append_assoc, List.map_append, List.append_assoc,
      skipString_piece first, ih others]

end Source

-- ============================================================ numerals

/-- What is left of a text starts with no character but one that may stand
after a value, or one of some more. -/
def Before (more : List Char) (rest : Source) : Prop :=
  ∀ c r, rest = some c :: r → Blank c ∨ c ∈ ',' :: ']' :: '\x7d' :: more

/-- What is left of a text ends a value. -/
abbrev Ends : Source → Prop := Before []

theorem before_cons {more : List Char} (h : Blank c ∨ c ∈ ',' :: ']' :: '\x7d' :: more) :
    Before more (some c :: s) := by
  rintro _ _ ⟨⟩
  exact h

theorem Before.mono {more wider : List Char} (h : Before more s) (sub : more ⊆ wider) :
    Before wider s := by
  intro c r e
  refine (h c r e).imp_right fun mem => ?_
  simp only [List.mem_cons] at mem ⊢
  exact mem.imp_right (Or.imp_right (Or.imp_right fun mem => sub mem))

theorem Ends.blanks_append (h : Blanks cs) (ends : Ends s) : Ends (cs.map some ++ s) := by
  match cs with
  | [] => exact ends
  | c :: cs => exact before_cons (.inl (h c (by simp)))

namespace Numeral

open Text.Number (digit?)

theorem digit?_digitChar {d : Nat} (h : d < 10) : digit? (Nat.digitChar d) = some d := by
  have all : ∀ d < 10, digit? (Nat.digitChar d) = some d := by decide
  exact all d h

theorem digitChar_ne_sign {d : Nat} (h : d < 10) :
    Nat.digitChar d ≠ '-' ∧ Nat.digitChar d ≠ '+' := by
  have all : ∀ d < 10, Nat.digitChar d ≠ '-' ∧ Nat.digitChar d ≠ '+' := by decide
  exact all d h

theorem exists_digit {ds : List Nat} (h : Digits ds cs) :
    ∃ d r, d < 10 ∧ cs = Nat.digitChar d :: r := by
  obtain ⟨some_digit, small, rfl⟩ := h
  match ds, some_digit with
  | d :: ds, _ => exact ⟨d, _, small d (by simp), rfl⟩

theorem digit?_of_before (h : Before ['e', 'E', '.'] s) {r : Source} (e : s = some c :: r) :
    digit? c = none := by
  rcases h c r e with blank | listed
  · rcases blank with rfl | rfl | rfl | rfl <;> decide
  · simp only [List.mem_cons, List.not_mem_nil, or_false] at listed
    rcases listed with rfl | rfl | rfl | rfl | rfl | rfl <;> decide

theorem digitsOnto_map {acc ds : List Nat} (small : ∀ d ∈ ds, d < 10)
    (before : Before ['e', 'E', '.'] rest) :
    digitsOnto acc (ds.map (some ∘ Nat.digitChar) ++ rest) = (acc.reverse ++ ds, rest) := by
  induction ds generalizing acc with
  | nil =>
    match rest with
    | [] | none :: _ => simp [digitsOnto]
    | some c :: r => simp [digitsOnto, digit?_of_before before rfl]
  | cons d ds ih =>
    simp only [List.forall_mem_cons] at small
    simp [digitsOnto, digit?_digitChar small.1, ih small.2]

theorem digits_append {ds : List Nat} (h : Digits ds cs) (before : Before ['e', 'E', '.'] rest) :
    digits (cs.map some ++ rest) = (ds, rest) := by
  obtain ⟨-, small, rfl⟩ := h
  rw [List.map_map]
  exact digitsOnto_map small before

theorem scanWhole_append {ds : List Nat} (h : Whole ds cs)
    (before : Before ['e', 'E', '.'] rest) :
    scanWhole (cs.map some ++ rest) = some (ds, rest) := by
  obtain ⟨h, short⟩ := h
  unfold scanWhole
  rw [digits_append h before]
  match ds, h.1 with
  | 0 :: d :: ds, _ => simp at short
  | [0], _ => rfl
  | (d + 1) :: ds, _ => rfl

theorem scanFraction_append {f : Option (List Nat)} (h : Fraction f cs)
    (before : Before ['e', 'E'] rest) : scanFraction (cs.map some ++ rest) = some (f, rest) := by
  cases h with
  | none =>
    have point : ∀ r, rest ≠ some '.' :: r := by
      intro r e
      have := before _ r e
      revert this
      decide
    unfold scanFraction
    simp
  | some h =>
    have read := digits_append h (before.mono (by simp))
    have some_digit := h.1
    simp [scanFraction, read]

theorem scanSign_append {down : Bool} {sign : List Char} {ds : List Nat} (hs : Sign down sign)
    (hd : Digits ds cs) :
    scanSign (sign.map some ++ (cs.map some ++ rest)) = (down, cs.map some ++ rest) := by
  cases hs with
  | none =>
    obtain ⟨d, r, small, rfl⟩ := exists_digit hd
    simp [scanSign, digitChar_ne_sign small]
  | plus | minus => simp [scanSign]

theorem scanMinus_append {negative : Bool} {ds : List Nat} (h : Digits ds cs) :
    scanMinus ((if negative then ['-'] else []).map some ++ (cs.map some ++ rest))
      = (negative, cs.map some ++ rest) := by
  cases negative with
  | true => simp [scanMinus]
  | false =>
    obtain ⟨d, r, small, rfl⟩ := exists_digit h
    simp [scanMinus, digitChar_ne_sign small]

theorem scanExponent_append {e : Option (Bool × List Nat)} (h : Exponent e cs)
    (ends : Ends rest) : scanExponent (cs.map some ++ rest) = some (e, rest) := by
  cases h with
  | none =>
    match rest with
    | [] | none :: _ => rfl
    | some c :: r =>
      have letter : ¬(c = 'e' ∨ c = 'E') := by
        have := ends c r rfl
        rintro (rfl | rfl) <;> revert this <;> decide
      simp [scanExponent, letter]
  | some he hs hd =>
    have read := digits_append hd (ends.mono (by simp))
    have some_digit := hd.1
    rw [List.map_cons, List.cons_append, scanExponent, if_pos he]
    simp [scanSign_append hs hd, read]

theorem before_exponent {e : Option (Bool × List Nat)} (h : Exponent e cs) (ends : Ends rest) :
    Before ['e', 'E'] (cs.map some ++ rest) := by
  cases h with
  | none => exact ends.mono (by simp)
  | some he => exact before_cons (by simp [he])

theorem before_fraction {f : Option (List Nat)} (h : Fraction f cs)
    (before : Before ['e', 'E'] rest) : Before ['e', 'E', '.'] (cs.map some ++ rest) := by
  cases h with
  | none => exact before.mono (by simp)
  | some h => exact before_cons (by simp)

theorem scan_append {n : Numeral} (h : Figures n cs) (ends : Ends rest) :
    scan (cs.map some ++ rest) = some (n, rest) := by
  obtain ⟨hw, hf, he⟩ := h
  have before := before_exponent he ends
  have wide := before_fraction hf before
  simp only [List.map_append, List.append_assoc]
  unfold scan
  rw [scanMinus_append hw.1]
  simp [scanWhole_append hw wide, scanFraction_append hf before, scanExponent_append he ends]

/-- A numeral starts as nothing else does. -/
theorem exists_figure {n : Numeral} (h : Figures n cs) :
    ∃ c r, cs = c :: r ∧ ¬Blank c ∧ c ∉ ['n', 't', 'f', '"', '[', ']', '\x7b'] := by
  obtain @⟨w, f, e, hw, -, -⟩ := h
  obtain ⟨d, r, small, rfl⟩ := exists_digit hw.1
  cases n.negative with
  | true => exact ⟨'-', _, rfl, by decide, by decide⟩
  | false =>
    have all : ∀ d < 10, ¬Blank (Nat.digitChar d)
        ∧ Nat.digitChar d ∉ ['n', 't', 'f', '"', '[', ']', '\x7b'] := by
      decide
    exact ⟨_, _, rfl, all d small⟩

theorem le_foldl_digits (sum : Nat) (ds : List Nat) :
    sum ≤ ds.foldl (fun sum d => 10 * sum + d) sum := by
  induction ds generalizing sum with
  | nil => exact Nat.le_refl sum
  | cons d ds ih => exact Nat.le_trans (by omega) (ih (10 * sum + d))

theorem collectWhole_eq {sum : Nat} {ds : List Nat}
    (fits : ds.foldl (fun sum d => 10 * sum + d) sum < 0x10000000000000000) :
    collectWhole sum 0 ds = (ds.foldl (fun sum d => 10 * sum + d) sum, 0) := by
  induction ds generalizing sum with
  | nil => rfl
  | cons d ds ih =>
    rw [List.foldl_cons] at fits ⊢
    have small := Nat.lt_of_le_of_lt (le_foldl_digits _ ds) fits
    rw [collectWhole, if_pos ⟨rfl, small⟩, ih fits]

/-- Digits alone are their number. -/
theorem value?_whole {ds : List Nat} (fits : ofDigits ds < 0x10000000000000000) :
    value? ⟨false, ds, none, none⟩ = some (.int (ofDigits ds)) := by
  simp [value?, collectWhole_eq fits, whole?, ofDigits]

end Numeral

-- =============================================================== heads

theorem Source.word?_append (w : List Char) : Source.word? w (w.map some ++ rest) = some rest := by
  simp [Source.word?]

namespace Head

theorem read_null : read ("null".toList.map some ++ rest) = some (null, rest) := by
  simp [read, Source.word?]

theorem read_quoted {s : String} (h : Quoted s cs) :
    read (cs.map some ++ rest) = some (string s, rest) := by
  obtain ⟨r, front, string⟩ := Source.string_of_quoted h rest
  simp [read, front, string]

theorem read_figures {n : Numeral} (h : Figures n cs) (ends : Ends rest) :
    read (cs.map some ++ rest) = n.value?.map fun v => (number v, rest) := by
  have scan := Numeral.scan_append h ends
  obtain ⟨c, r, rfl, -, other⟩ := Numeral.exists_figure h
  simp only [List.map_cons, List.cons_append] at scan ⊢
  unfold read
  grind

end Head

end TenantGate.Json
