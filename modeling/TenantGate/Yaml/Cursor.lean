/-
A place in a YAML text, and how blanks, comments and line ends are passed
over.

Columns matter in this format, so a cursor knows its line and column. A
comment starts at the start of a line or behind a blank. Tabs may not
indent: a tab left of the column where a block's content stands is
refused, unless nothing but a comment follows it.
-/
namespace TenantGate.Yaml

/-- What is left of a text, and where that starts. -/
structure Cursor where
  rest : List Char
  line : Nat
  column : Nat
deriving Inhabited

/-- A space or a tab. -/
def isBlank (c : Char) : Bool := c = ' ' || c = '\t'

/-- A character that means something inside brackets. -/
def isFlow (c : Char) : Bool :=
  c = ',' || c = '[' || c = ']' || c = '\x7b' || c = '\x7d'

/-- Does a text start with a blank or a line end, or is there no text? -/
def atGap : List Char → Bool
  | [] => true
  | c :: _ => isBlank c || c = '\n'

/-- Does a text start with a line end, or is there no text? -/
def atLineEnd : List Char → Bool
  | [] => true
  | c :: _ => c = '\n'

/-- Is there nothing but blanks and a comment before the next line end? -/
def isBare (cs : List Char) : Bool :=
  match cs.dropWhile isBlank with
  | '#' :: _ => true
  | rest => atLineEnd rest

/-- A line of three dashes or three points, alone or before a blank. -/
def isMarker : List Char → Bool
  | '-' :: '-' :: '-' :: rest => atGap rest
  | '.' :: '.' :: '.' :: rest => atGap rest
  | _ => false

namespace Cursor

/-- The start of a text. Line ends have one spelling from here on, and
the text ends before a zero character. -/
def normal : List Char → List Char
  | [] => []
  | '\r' :: '\n' :: rest => '\n' :: normal rest
  | '\r' :: rest => '\n' :: normal rest
  | c :: rest => if c = '\x00' then [] else c :: normal rest

def start (s : String) : Cursor := ⟨normal s.toList, 0, 0⟩

/-- The cursor behind the first character, which ends no line. -/
def step (c : Cursor) : Cursor := { c with rest := c.rest.tail, column := c.column + 1 }

/-- The cursor behind `n` characters, none of which ends a line. -/
def drop (n : Nat) (c : Cursor) : Cursor :=
  { c with rest := c.rest.drop n, column := c.column + n }

/-- Is the text at its end, or at a marker between documents? -/
def isOver (c : Cursor) : Bool :=
  c.rest.isEmpty || (c.column = 0 && isMarker c.rest)

/-- Passes over the blanks of the line. -/
def blanks (c : Cursor) : Cursor := c.drop (c.rest.takeWhile isBlank).length

/-- Passes over a comment. -/
def comment (c : Cursor) : Cursor := c.drop (c.rest.takeWhile (· ≠ '\n')).length

/-- Passes over blanks and a comment behind them, if nothing else is left
of the line. -/
def endLine? (c : Cursor) : Option Cursor :=
  let next := c.blanks
  match next.rest with
  | '#' :: _ => if next.column = c.column then none else some next.comment
  | rest => if atLineEnd rest then some next else none

/-- Passes over blanks, comments and line ends from a place on: `start`
tells whether nothing but blanks stand before it in its line, `gap`
whether a blank does or it is at the start. -/
def skipFrom (floor : Int) (line column : Nat) (start gap : Bool) : List Char → Option Cursor
  | [] => some ⟨[], line, column⟩
  | c :: rest =>
      if c = '\n' then skipFrom floor (line + 1) 0 true true rest
      else if isBlank c then
        if c = '\t' ∧ start ∧ (column : Int) < floor ∧ ¬isBare rest then none
        else skipFrom floor line (column + 1) start true rest
      else if c = '#' ∧ gap then skipComment line (column + 1) rest
      else some ⟨c :: rest, line, column⟩
where
  /-- Goes on behind the comment. -/
  skipComment (line column : Nat) : List Char → Option Cursor
    | [] => some ⟨[], line, column⟩
    | c :: rest =>
        if c = '\n' then skipFrom floor (line + 1) 0 true true rest
        else skipComment line (column + 1) rest

/-- Passes over blanks, comments and line ends. -/
def skip? (floor : Int) (c : Cursor) : Option Cursor :=
  skipFrom floor c.line c.column (c.column = 0) (c.column = 0) c.rest

end Cursor

end TenantGate.Yaml
