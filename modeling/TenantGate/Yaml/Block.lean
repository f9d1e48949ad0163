/-
Scalars in blocks: text behind `|`, which keeps its lines, or behind `>`,
which folds them.

A header may say how far the text is indented and what becomes of the
line ends behind it: one of them stays, or none behind `-`, or all behind
`+`. Without a number the indentation is that of the first line that is
not empty, and no empty line before it may be longer.
-/
import TenantGate.Yaml.Cursor

namespace TenantGate.Yaml.Block

/-- What becomes of the line ends behind the text. -/
inductive Tail where
  | none
  | one
  | all
deriving DecidableEq, Inhabited

/-- The header of a scalar. -/
structure Header where
  folded : Bool
  tail : Tail
  /-- How much further than its parent the text is indented. -/
  depth : Option Nat
deriving DecidableEq

/-- The sign of a tail. -/
def tail? : List Char → Option Tail
  | '+' :: _ => some .all
  | '-' :: _ => some .none
  | _ => none

/-- The digit of an indentation; zero is refused. -/
def depth? : List Char → Option (Option Nat)
  | c :: _ =>
      if c = '0' then none
      else if '1' ≤ c ∧ c ≤ '9' then some (some (c.toNat - 48))
      else some none
  | [] => some none

/-- The header at a place, and the place behind it. The sign and the digit
come in either order. -/
def header? (c : Cursor) : Option (Header × Cursor) :=
  let folded := c.rest.head? = some '>'
  let c := c.step
  match tail? c.rest with
  | some tail => do
      let c := c.step
      let depth ← depth? c.rest
      return (⟨folded, tail, depth⟩, if depth.isSome then c.step else c)
  | none => do
      let depth ← depth? c.rest
      if depth.isNone then return (⟨folded, .one, depth⟩, c)
      else
        let c := c.step
        match tail? c.rest with
        | some tail => return (⟨folded, tail, depth⟩, c.step)
        | none => return (⟨folded, .one, depth⟩, c)

/-- A text in lines, and what stands behind the last line end. -/
structure Lines where
  ended : List (List Char)
  last : List Char

/-- A text with a further character in front. -/
def Lines.cons (c : Char) (ls : Lines) : Lines :=
  if c = '\n' then ⟨[] :: ls.ended, ls.last⟩
  else
    match ls.ended with
    | first :: more => ⟨(c :: first) :: more, ls.last⟩
    | [] => ⟨[], c :: ls.last⟩

/-- The lines of a text. -/
def Lines.ofText (cs : List Char) : Lines := cs.foldr .cons ⟨[], []⟩

/-- The text of lines. -/
def Lines.text (ls : Lines) : List Char := (ls.ended.map (· ++ ['\n'])).flatten ++ ls.last

/-- The number of spaces at the start of a line. -/
def spaces (cs : List Char) : Nat := (cs.takeWhile (· = ' ')).length

/-- Is there nothing in a line but spaces, and at most `width` of them? -/
def isEmpty (width : Nat) (cs : List Char) : Bool :=
  cs.length ≤ width && spaces cs = cs.length

/-- The indentation that lines show, at least `least`: the most spaces in
the lines of nothing but spaces at the start, or in front of the first
other line. -/
def indentation (least : Nat) (last : List Char) : List (List Char) → Nat
  | [] => max least (spaces last)
  | line :: more =>
      if spaces line = line.length then indentation (max least line.length) last more
      else max least (spaces line)

/-- What was read so far. -/
structure Text where
  /-- The characters, the last one first. -/
  done : List Char
  /-- Is there a line whose end is not among the characters yet? -/
  ended : Bool
  /-- The number of empty lines behind it. -/
  empty : Nat
  /-- Did that line start with a blank? -/
  blank : Bool

/-- Between two lines of a folded text, neither of which starts with a
blank, there is a space, or as many line ends as there are empty lines;
otherwise all line ends are kept. -/
def Text.gap (folded blank : Bool) (t : Text) : List Char :=
  if folded ∧ t.ended ∧ ¬t.blank ∧ ¬blank then
    if t.empty = 0 then [' '] else List.replicate t.empty '\n'
  else List.replicate (t.ended.toNat + t.empty) '\n'

/-- A text with a further line. -/
def Text.line (folded : Bool) (cs : List Char) (t : Text) : Text :=
  let blank := (cs.head?.map isBlank).getD false
  ⟨cs.reverse ++ (t.gap folded blank ++ t.done), true, 0, blank⟩

/-- Reads lines as long as they are indented or empty; gives the rest. -/
def content (folded : Bool) (width : Nat) (t : Text) :
    List (List Char) → Text × List (List Char)
  | [] => (t, [])
  | line :: more =>
      if isEmpty width line then content folded width { t with empty := t.empty + 1 } more
      else if spaces line < width then (t, line :: more)
      else content folded width (t.line folded (line.drop width)) more

/-- The text with the line ends behind it, and `more` of them, that its
tail lets stay. -/
def Text.finish (tail : Tail) (more : Nat) (t : Text) : String :=
  let kept := match tail with
    | .none => 0
    | .one => t.ended.toNat + more
    | .all => t.ended.toNat + more + t.empty
  String.ofList (t.done.reverse ++ List.replicate kept '\n')

/-- A scalar with nothing but `empty` empty lines up to the end of all. -/
def bareText (tail : Tail) (empty : Nat) : String :=
  String.ofList (match tail with
    | .none => []
    | .one => ['\n']
    | .all => List.replicate (max empty 1) '\n')

/-- The scalar in the lines behind its header, and the lines behind it. -/
def body? (h : Header) (indent : Int) (ls : Lines) : Option (String × Lines) :=
  let width := match h.depth with
    | some depth => indent.toNat + depth
    | none => indentation (indent + 1).toNat ls.last ls.ended
  let first := spaces ((ls.ended.find? fun l => ¬isEmpty width l).getD ls.last)
  let (t, rest) := content h.folded width ⟨[], false, 0, false⟩ ls.ended
  let nothing : Lines := ⟨[], []⟩
  if rest.isEmpty ∧ isEmpty width ls.last then
    if t.ended then
      some (t.finish h.tail (if 0 < width ∧ ls.last.length = width then 1 else 0), nothing)
    else some (bareText h.tail t.empty, nothing)
  else if first < width ∧ indent < first then none
  else if rest.isEmpty ∧ width ≤ spaces ls.last then
    some ((t.line h.folded (ls.last.drop width)).finish h.tail 0, nothing)
  else some (t.finish h.tail 0, ⟨rest, ls.last⟩)

/-- The scalar at a place; its parent stands at the column `indent`. -/
def scalar? (indent : Int) (c : Cursor) : Option (String × Cursor) := do
  let (h, c) ← header? c
  let c ← c.endLine?
  match c.rest with
  | [] => return ("", c)
  | _ :: text =>
      if text.head? = some '\t' then none
      else
        let ls := Lines.ofText text
        let (s, rest) ← body? h indent ls
        return (s, ⟨rest.text, c.line + 1 + (ls.ended.length - rest.ended.length), 0⟩)

end TenantGate.Yaml.Block
