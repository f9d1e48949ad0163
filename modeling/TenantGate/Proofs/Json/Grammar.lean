/-
JSON texts, without a reader.

# Tokens

Blanks, strings and numerals are lists of characters. A string comes in two
strengths: `Quoted s` are the texts of a string with known characters, while
`Loose` are those of a string that is only passed over, where half of a
surrogate pair may stand alone.

# Values

`Derives` is the grammar of values: one inductive over its parts, one
constructor for each alternative, so that an induction on it goes through a
nested text as the grammar does.
-/
import TenantGate.Json.Numeral
import TenantGate.Text.Hex

namespace TenantGate.Json.Grammar

open Text

-- ============================================================== tokens

/-- The blanks between tokens. -/
def Blank (c : Char) : Prop := c = ' ' ∨ c = '\n' ∨ c = '\t' ∨ c = '\r'

instance : DecidablePred Blank := fun _ => inferInstanceAs (Decidable (_ ∨ _))

def Blanks (cs : List Char) : Prop := ∀ c ∈ cs, Blank c

theorem Blanks.nil : Blanks [] := by
  simp [Blanks]

/-- The characters that stand in a string as themselves. -/
def Plain (c : Char) : Prop := 0x20 ≤ c.toNat ∧ c ≠ '"' ∧ c ≠ '\\'

instance : DecidablePred Plain := fun _ => inferInstanceAs (Decidable (_ ∧ _))

/-- The escapes by one letter: the letter, and the character that it
stands for. -/
def letters : List (Char × Char) :=
  [('"', '"'), ('\\', '\\'), ('/', '/'), ('b', '\x08'), ('f', '\x0c'), ('n', '\n'),
    ('r', '\r'), ('t', '\t')]

/-- The four hexadecimal digits of a number, in either case. -/
def Quad (n : Nat) (q : List Char) : Prop :=
  n < 0x10000 ∧ q.map Char.toLower = Hex.padded Hex.digit 4 n

instance {n : Nat} {q : List Char} : Decidable (Quad n q) := inferInstanceAs (Decidable (_ ∧ _))

/-- The texts of one character in a string. -/
inductive Spells (c : Char) : List Char → Prop
  | plain (h : Plain c) : Spells c [c]
  | letter {l : Char} (h : (l, c) ∈ letters) : Spells c ['\\', l]
  | number {q : List Char} (h : Quad c.toNat q) : Spells c ('\\' :: 'u' :: q)
  | pair {high low : Nat} {q r : List Char} (first : 0xD800 ≤ high ∧ high < 0xDC00)
      (second : 0xDC00 ≤ low ∧ low < 0xE000)
      (together : c.toNat = 0x10000 + 0x400 * (high - 0xD800) + (low - 0xDC00))
      (hq : Quad high q) (hr : Quad low r) :
      Spells c ('\\' :: 'u' :: (q ++ '\\' :: 'u' :: r))

/-- The texts of a list of characters, between the quotes. -/
inductive Inside : List Char → List Char → Prop
  | nil : Inside [] []
  | cons {c : Char} {x cs xs : List Char} (head : Spells c x) (tail : Inside cs xs) :
      Inside (c :: cs) (x ++ xs)

/-- The texts of a string. -/
inductive Quoted (s : String) : List Char → Prop
  | intro {xs : List Char} (h : Inside s.toList xs) : Quoted s ('"' :: (xs ++ ['"']))

theorem Inside.of_plain {cs : List Char} (h : cs.all fun c => Plain c) : Inside cs cs := by
  induction cs with
  | nil => exact .nil
  | cons c cs ih =>
    simp only [List.all_cons, Bool.and_eq_true, decide_eq_true_eq] at h
    exact .cons (.plain h.1) (ih h.2)

/-- A string of plain characters is its own text. -/
theorem Quoted.of_plain {s : String} (h : s.toList.all fun c => Plain c) :
    Quoted s ('"' :: (s.toList ++ ['"'])) :=
  ⟨.of_plain h⟩

/-- What stands at one place of a string, whether or not it is a
character. -/
inductive Piece : List Char → Prop
  | plain {c : Char} (h : Plain c) : Piece [c]
  | letter {l c : Char} (h : (l, c) ∈ letters) : Piece ['\\', l]
  | number {n : Nat} {q : List Char} (h : Quad n q) : Piece ('\\' :: 'u' :: q)

/-- The texts that look like a string. -/
inductive Loose : List Char → Prop
  | intro {pieces : List (List Char)} (h : ∀ x ∈ pieces, Piece x) :
      Loose ('"' :: (pieces.flatten ++ ['"']))

/-- The text of some decimal digits, at least one. -/
def Digits (ds : List Nat) (cs : List Char) : Prop :=
  ds ≠ [] ∧ (∀ d ∈ ds, d < 10) ∧ cs = ds.map Nat.digitChar

/-- The text of a whole part, which starts with zero only if it is zero. -/
def Whole (ds : List Nat) (cs : List Char) : Prop :=
  Digits ds cs ∧ (ds.head? = some 0 → ds = [0])

inductive Fraction : Option (List Nat) → List Char → Prop
  | none : Fraction none []
  | some {ds : List Nat} {cs : List Char} (h : Digits ds cs) : Fraction (some ds) ('.' :: cs)

/-- The signs of an exponent; is it negative? -/
inductive Sign : Bool → List Char → Prop
  | none : Sign false []
  | plus : Sign false ['+']
  | minus : Sign true ['-']

inductive Exponent : Option (Bool × List Nat) → List Char → Prop
  | none : Exponent none []
  | some {e : Char} {down : Bool} {ds : List Nat} {sign cs : List Char} (he : e = 'e' ∨ e = 'E')
      (hs : Sign down sign) (hd : Digits ds cs) : Exponent (some (down, ds)) (e :: (sign ++ cs))

/-- The text of a numeral. -/
inductive Figures (n : Numeral) : List Char → Prop
  | intro {w f e : List Char} (hw : Whole n.whole w) (hf : Fraction n.fraction f)
      (he : Exponent n.exponent e) :
      Figures n ((if n.negative then ['-'] else []) ++ (w ++ (f ++ e)))

/-- The number of some decimal digits. -/
def ofDigits (ds : List Nat) : Nat := ds.foldl (fun sum d => 10 * sum + d) 0

-- ============================================================== values

/-- The parts of a text. An element is a value with blanks around it. -/
inductive Part where
  | value
  | element
  | elements
  | member
  | members

/-- The texts of each part. -/
inductive Derives : Part → List Char → Prop
  | word {w : String} (h : w ∈ ["null", "true", "false"]) : Derives .value w.toList
  | string {cs : List Char} (h : Loose cs) : Derives .value cs
  | number {n : Numeral} {cs : List Char} (h : Figures n cs) : Derives .value cs
  | emptyList {a : List Char} (h : Blanks a) : Derives .value ('[' :: (a ++ [']']))
  | list {es : List Char} (h : Derives .elements es) : Derives .value ('[' :: (es ++ [']']))
  | emptyObject {a : List Char} (h : Blanks a) : Derives .value ('\x7b' :: (a ++ ['\x7d']))
  | object {ms : List Char} (h : Derives .members ms) :
      Derives .value ('\x7b' :: (ms ++ ['\x7d']))
  | padded {a v b : List Char} (ha : Blanks a) (hv : Derives .value v) (hb : Blanks b) :
      Derives .element (a ++ (v ++ b))
  | lastElement {e : List Char} (h : Derives .element e) : Derives .elements e
  | moreElements {e es : List Char} (head : Derives .element e) (tail : Derives .elements es) :
      Derives .elements (e ++ ',' :: es)
  | named {a k b e : List Char} (ha : Blanks a) (hk : Loose k) (hb : Blanks b)
      (he : Derives .element e) : Derives .member (a ++ (k ++ (b ++ ':' :: e)))
  | lastMember {m : List Char} (h : Derives .member m) : Derives .members m
  | moreMembers {m ms : List Char} (head : Derives .member m) (tail : Derives .members ms) :
      Derives .members (m ++ ',' :: ms)

end TenantGate.Json.Grammar
