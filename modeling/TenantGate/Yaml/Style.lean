/-
How a string is written so that it is read back as the same string.

A string is written plain where that is possible, otherwise between
single quotes, and between double quotes where there are characters that
have to be escaped. A string with line ends is written as a block of its
lines, if blanks at line ends do not forbid it. What looks like a value
of another kind is never written plain.
-/
import TenantGate.Yaml.Resolve

namespace TenantGate.Yaml

open Text (Hex.value? Hex.padded Hex.upperDigit)

-- ======================================================== other kinds

/-- The number of a non-empty text of digits of a base. -/
def digitsOf? (base : Nat) (cs : List Char) : Option Nat :=
  match cs.mapM fun c => (Hex.value? c).filter (· < base) with
  | none | some [] => none
  | some ds => some (ds.foldl (fun n d => base * n + d) 0)

/-- Is a text a number of at most 128 bits in one of the marked bases? A
negative number has one bit less. -/
def isMarkedNumber (s : String) : Bool :=
  let (negative, cs) := Decimal.takeSign s.toList
  let n := match cs with
    | '0' :: 'x' :: ds => digitsOf? 16 ds
    | '0' :: 'o' :: ds => digitsOf? 8 ds
    | '0' :: 'b' :: ds => digitsOf? 2 ds
    | _ => none
  match n with
  | some n => if negative then n ≤ 0x80000000000000000000000000000000
      else n < 0x100000000000000000000000000000000
  | none => false

/-- Is a text a finite decimal number, or a word for another float? -/
def isFloatText (s : String) : Bool :=
  s ∈ endless || ((Decimal.read? s.toList).map Float.isFinite).getD false

/-- Would a plain text be read as something else than a string? -/
def isOtherKind (s : String) : Bool :=
  s ∈ ["", "~", "null", "Null", "NULL", "true", "True", "TRUE", "false", "False", "FALSE"]
    || isMarkedNumber s || isFloatText s

-- ========================================================= what a text holds

/-- A character that ends a line. -/
def isBreak (c : Char) : Bool := c = '\n' || c = '\u2028' || c = '\u2029'

/-- A character that is shown only by an escape. -/
def isSpecial (c : Char) : Bool :=
  let n := c.toNat
  (n < 0x20 && c ≠ '\n') || (0x7f ≤ n && n < 0xa0) || n = 0xfeff || n = 0xfffe || n = 0xffff

/-- Does a blank or a line end come next, or nothing? -/
def gapNext : List Char → Bool
  | [] => true
  | c :: _ => c = ' ' || c = '\t' || isBreak c

/-- Does a text start with a character or marker that means something? -/
def startsMarked : List Char → Bool
  | '-' :: '-' :: '-' :: _ => true
  | '.' :: '.' :: '.' :: _ => true
  | c :: rest => c ∈ "#,[]\x7b\x7d&*!|>'\"%@\x60".toList || (c ∈ ['?', ':', '-'] && gapNext rest)
  | [] => false

/-- Does a colon with a gap behind it, or a number sign with a gap before
it, stand in a text? `gap` tells whether a gap precedes the text. -/
def holdsMark (gap : Bool) : List Char → Bool
  | [] => false
  | c :: rest =>
      (c = ':' && gapNext rest) || (c = '#' && gap) || holdsMark (gapNext [c]) rest

/-- Do two neighbours in a text satisfy a condition? -/
def adjacent (p : Char → Char → Bool) : List Char → Bool
  | a :: b :: rest => p a b || adjacent p (b :: rest)
  | _ => false

/-- Does a text hold a space in front of a line end? -/
def spaceBeforeBreak (cs : List Char) : Bool := adjacent (fun a b => a = ' ' && isBreak b) cs

/-- Does a text hold a space behind a line end? -/
def spaceAfterBreak (cs : List Char) : Bool := adjacent (fun a b => isBreak a && b = ' ') cs

-- ================================================================= styles

/-- The ways to write a string. -/
inductive Style where
  | plain
  | single
  | double
  | block
deriving DecidableEq, Inhabited

namespace Style

/-- The style of a string that may not be plain. -/
def quoted (cs : List Char) : Style :=
  if cs.any isSpecial ∨ spaceBeforeBreak cs ∨ spaceAfterBreak cs then double else single

/-- Can a string without special characters be written plain? -/
def allowsPlain (cs : List Char) : Bool :=
  !cs.any isBreak && !startsMarked cs && !holdsMark true cs
    && cs.head? ≠ some ' ' && cs.getLast? ≠ some ' '

/-- The style of a string. -/
def ofString (s : String) : Style :=
  let cs := s.toList
  if cs.contains '\n' then
    if cs.any isSpecial ∨ spaceBeforeBreak cs ∨ cs.getLast? = some ' ' then double else block
  else if ¬cs.any isSpecial ∧ ¬isOtherKind s ∧ allowsPlain cs then plain
  else quoted cs

end Style

-- ================================================================ writing

/-- Text with the lines after the first indented, where `inLine` tells
that the line has been started. Empty lines are not indented. -/
def indented (indent : Nat) (inLine : Bool) : List Char → List Char
  | [] => []
  | c :: rest =>
      if isBreak c then c :: indented indent false rest
      else if inLine then c :: indented indent true rest
      else List.replicate indent ' ' ++ c :: indented indent true rest

/-- Text between single quotes, with quotes written twice. -/
def writeSingle (indent : Nat) (cs : List Char) : List Char :=
  let body := cs.flatMap fun c => if c = '\'' then ['\'', '\''] else [c]
  '\'' :: indented indent true (body ++ ['\''])

/-- A character between double quotes. -/
def writeEscaped (c : Char) : List Char :=
  let named : List (Char × Char) := [('\x00', '0'), ('\x07', 'a'), ('\x08', 'b'), ('\t', 't'),
    ('\n', 'n'), ('\x0b', 'v'), ('\x0c', 'f'), ('\r', 'r'), ('\x1b', 'e'), ('"', '"'),
    ('\\', '\\'), ('\u0085', 'N'), ('\u2028', 'L'), ('\u2029', 'P')]
  match named.lookup c with
  | some e => ['\\', e]
  | none =>
      if ¬isSpecial c then [c]
      else if c.toNat < 0x100 then '\\' :: 'x' :: Hex.padded Hex.upperDigit 2 c.toNat
      else '\\' :: 'u' :: Hex.padded Hex.upperDigit 4 c.toNat

/-- Text between double quotes. -/
def writeDouble (cs : List Char) : List Char := '"' :: (cs.flatMap writeEscaped ++ ['"'])

/-- What the header of a block says: how far it is indented, if its first
line cannot show it, and what becomes of the line ends behind it. -/
def blockHints (cs : List Char) : List Char :=
  let depth := match cs with
    | c :: _ => if c = ' ' ∨ isBreak c then ['2'] else []
    | [] => []
  let tail := match cs.reverse with
    | [] => ['-']
    | [c] => if isBreak c then ['+'] else ['-']
    | c :: d :: _ => if ¬isBreak c then ['-'] else if isBreak d then ['+'] else []
  depth ++ tail

/-- A block of lines, up to and with the last line end. -/
def writeBlock (indent : Nat) (cs : List Char) : List Char :=
  let ended := (cs.getLast?.map isBreak).getD false
  '|' :: (blockHints cs ++ '\n' :: indented indent false cs ++ if ended then [] else ['\n'])

/-- A string and the end of its line, where further lines of it are
indented by `indent`. -/
def writeString (indent : Nat) (s : String) : String :=
  let cs := s.toList
  String.ofList (match Style.ofString s with
    | .plain => cs ++ ['\n']
    | .single => writeSingle indent cs ++ ['\n']
    | .double => writeDouble cs ++ ['\n']
    | .block => writeBlock indent cs)

end TenantGate.Yaml
