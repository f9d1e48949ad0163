/-
Scalars that may go on over several lines outside of blocks: plain ones
and those between quotes.

Blanks at the end of a line and at the start of the next are dropped. One
line end becomes a space, and of several all but the first are kept.
-/
import TenantGate.Text.Hex
import TenantGate.Yaml.Cursor

namespace TenantGate.Yaml

/-- What stands between two characters of a scalar. -/
inductive Gap where
  | none
  /-- Blanks in the line, the last one first. -/
  | blanks (cs : List Char)
  /-- Line ends; the first of them is dropped silently if it is escaped. -/
  | lines (escaped : Bool) (more : Nat)
deriving DecidableEq, Inhabited

namespace Gap

/-- Is there no gap? -/
def isNone : Gap → Bool
  | none => true
  | _ => false

def isLines : Gap → Bool
  | lines .. => true
  | _ => false

/-- A gap with one more line end. -/
def newline : Gap → Gap
  | lines escaped more => lines escaped (more + 1)
  | _ => lines false 0

/-- A gap with one more blank. -/
def blank (c : Char) : Gap → Gap
  | none => blanks [c]
  | blanks cs => blanks (c :: cs)
  | g => g

/-- A scalar, given by its characters with the last one first, with what a
gap behind it becomes. -/
def append (done : List Char) : Gap → List Char
  | none => done
  | blanks cs => cs ++ done
  | lines false 0 => ' ' :: done
  | lines _ more => List.replicate more '\n' ++ done

end Gap

-- ================================================================= plain

/-- Is a colon at the front of a text the mark of a value? -/
def atValue (flow : Bool) : List Char → Bool
  | ':' :: rest => atGap rest || (flow && (rest.head?.map isFlow).getD false)
  | _ => false

/-- Does a character end a plain scalar? -/
def endsPlain (flow : Bool) (c : Char) (rest : List Char) : Bool :=
  atValue flow (c :: rest) || (flow && isFlow c)

/-- A plain scalar that has the characters `done` so far, with the last
one first, and stops at `stop` if nothing more follows. Lines after the
first belong to it from the column `floor` on; between brackets they
always do. -/
def plainFrom (flow : Bool) (floor : Int) (done : List Char) (gap : Gap) (stop : Cursor)
    (line column : Nat) : List Char → Option (String × Cursor)
  | [] => some (String.ofList done.reverse, stop)
  | c :: rest =>
      let finish := some (String.ofList done.reverse, stop)
      if c = '\n' then plainFrom flow floor done gap.newline stop (line + 1) 0 rest
      else if isBlank c then
        if gap.isLines ∧ c = '\t' ∧ (column : Int) < floor ∧ ¬isBare rest then none
        else plainFrom flow floor done (gap.blank c) stop line (column + 1) rest
      else if gap.isLines ∧ ((¬flow ∧ (column : Int) < floor)
          ∨ (column = 0 ∧ isMarker (c :: rest))) then finish
      else if (c = '#' ∧ ¬gap.isNone) ∨ endsPlain flow c rest then finish
      else if flow ∧ c = '-' ∧ (done.isEmpty ∨ ¬gap.isNone)
          ∧ (rest.head?.map isFlow).getD false then none
      else
        plainFrom flow floor (c :: gap.append done) .none ⟨rest, line, column + 1⟩
          line (column + 1) rest

/-- The plain scalar at a place. -/
def plain? (flow : Bool) (floor : Int) (c : Cursor) : Option (String × Cursor) :=
  plainFrom flow floor [] .none c c.line c.column c.rest

-- ================================================================ quoted

/-- May the text between quotes go on here? It may not left of the column
`floor` or at a marker. -/
def quotedGoesOn (floor : Int) (column : Nat) (cs : List Char) : Bool :=
  floor ≤ column && !(column = 0 && isMarker cs)

/-- Text between single quotes; a quote inside is written twice. -/
def singleFrom (floor : Int) (done : List Char) (gap : Gap) (line column : Nat) :
    List Char → Option (String × Cursor)
  | [] => none
  | c :: rest =>
      if c = '\n' then singleFrom floor done gap.newline (line + 1) 0 rest
      else if isBlank c then
        if gap.isLines ∧ c = '\t' ∧ (column : Int) < floor then none
        else singleFrom floor done (gap.blank c) line (column + 1) rest
      else if gap.isLines ∧ ¬quotedGoesOn floor column (c :: rest) then none
      else if c = '\'' then
        match rest with
        | '\'' :: rest => singleFrom floor ('\'' :: gap.append done) .none line (column + 2) rest
        | rest => some (String.ofList (gap.append done).reverse, ⟨rest, line, column + 1⟩)
      else singleFrom floor (c :: gap.append done) .none line (column + 1) rest

/-- The character of an escape that is one letter. -/
def letter? (c : Char) : Option Char :=
  ([('0', '\x00'), ('a', '\x07'), ('b', '\x08'), ('t', '\t'), ('\t', '\t'), ('n', '\n'),
    ('v', '\x0b'), ('f', '\x0c'), ('r', '\r'), ('e', '\x1b'), (' ', ' '), ('"', '"'),
    ('/', '/'), ('\\', '\\'), ('N', '\u0085'), ('_', '\u00a0'), ('L', '\u2028'),
    ('P', '\u2029')] : List (Char × Char)).lookup c

/-- The number of hexadecimal digits of an escape that gives a character
by its number. -/
def digits? (c : Char) : Option Nat :=
  ([('x', 2), ('u', 4), ('U', 8)] : List (Char × Nat)).lookup c

/-- The character of a number, if it is one. -/
def character? (n : Nat) : Option Char :=
  if n < 0xD800 ∨ (0xDFFF < n ∧ n < 0x110000) then some (Char.ofNat n) else none

/-- An escape behind its backslash: the character and how many characters
spell it. -/
def escape? : List Char → Option (Char × Nat)
  | [] => none
  | c :: rest =>
      match letter? c, digits? c with
      | some e, _ => some (e, 1)
      | none, some count =>
          if rest.length < count then none
          else ((Text.Hex.read? (rest.take count)).bind character?).map (·, count + 1)
      | none, none => none

/-- Text between double quotes. -/
def doubleFrom (floor : Int) (done : List Char) (gap : Gap) (line column : Nat) (cs : List Char) :
    Option (String × Cursor) :=
  match cs with
  | [] => none
  | c :: rest =>
      if c = '\n' then doubleFrom floor done gap.newline (line + 1) 0 rest
      else if isBlank c then
        if gap.isLines ∧ c = '\t' ∧ (column : Int) < floor then none
        else doubleFrom floor done (gap.blank c) line (column + 1) rest
      else if gap.isLines ∧ ¬quotedGoesOn floor column (c :: rest) then none
      else if c = '"' then some (String.ofList (gap.append done).reverse, ⟨rest, line, column + 1⟩)
      else if c = '\\' then
        match rest with
        | '\n' :: rest => doubleFrom floor (gap.append done) (.lines true 0) (line + 1) 0 rest
        | rest =>
            match escape? rest with
            | some (e, count) =>
                doubleFrom floor (e :: gap.append done) .none line (column + 1 + count)
                  (rest.drop count)
            | none => none
      else doubleFrom floor (c :: gap.append done) .none line (column + 1) rest
termination_by cs.length
decreasing_by
  all_goals simp only [List.length_drop, List.length_cons]
  all_goals omega

/-- The text between the quotes at a place. -/
def quoted? (floor : Int) (c : Cursor) : Option (String × Cursor) :=
  match c.rest with
  | '\'' :: rest => singleFrom floor [] .none c.line (c.column + 1) rest
  | '"' :: rest => doubleFrom floor [] .none c.line (c.column + 1) rest
  | _ => none

end TenantGate.Yaml
