/-
YAML texts as values.

Blocks are told apart by columns. The entries of a list or mapping start
in one column, what belongs to an entry stands right of it, and only a
list may stand in the column of the key whose value it is. A mapping
starts with a key and its colon on one line; on a line that already holds
a key and its colon no further mapping starts.

A text without a document is an empty mapping, and one with several
documents is refused.
-/
import TenantGate.Yaml.Block
import TenantGate.Yaml.Flow

namespace TenantGate.Yaml

/-- The place of a node in a block. -/
structure Place where
  /-- The column of what the node belongs to; -1 for the whole. -/
  indent : Int
  /-- May a list stand in that column? -/
  lists : Bool
  /-- May a mapping or a list start on this line? -/
  blocks : Bool
  /-- The least column of further lines of quoted text. -/
  floor : Int
  /-- Properties on earlier lines. -/
  outer : Properties
  /-- Properties on this line, and the column of the first. -/
  inner : Properties
  start : Option Nat

namespace Place

/-- A place in front of which there are no properties. -/
def plain (indent : Int) (lists blocks : Bool) (floor : Int) : Place :=
  ⟨indent, lists, blocks, floor, .none, .none, none⟩

/-- The same place further down, at the start of a line. -/
def below? (p : Place) : Option Place := do
  let outer ← p.outer.join? p.inner
  return { p with blocks := true, floor := p.indent + 1, outer, inner := .none, start := none }

/-- The properties on all lines. -/
def properties? (p : Place) : Option Properties := p.outer.join? p.inner

end Place

/-- A scalar, an alias or a node between brackets, before its properties
are known to be its own. -/
inductive Leaf where
  | plain (text : String)
  | quoted (text : String)
  | named (n : Node)
  | flow (n : Node)
deriving Inhabited

/-- The node of a leaf with its properties. An alias has none. -/
def Leaf.node? (p : Properties) : Leaf → Option Node
  | plain text => p.plain? text
  | quoted text => some ⟨.string text, text⟩
  | named n => if p.isNone then some n else none
  | flow n => some n

/-- The leaf that is next. -/
def leaf? (fuel : Nat) (indent floor : Int) (s : State) : Option (Leaf × State) :=
  match s.rest with
  | [] => none
  | c :: rest =>
      if c = '*' then (alias? s).map fun (n, s) => (.named n, s)
      else if c = '"' ∨ c = '\'' then do
        let (text, cursor) ← quoted? floor s.cursor
        return (.quoted text, { s with cursor })
      else if c = '[' ∨ c = '\x7b' then do
        let (n, s) ← flowNode fuel 0 indent { s with loose := false }
        return (.flow n.node, s)
      else if c ∈ [',', ']', '\x7d', '%', '@', '\x60', '#', '|', '>', '&', '!'] then none
      else if c ∈ ['-', '?', ':'] ∧ atGap rest then none
      else do
        let (text, cursor) ← plain? false (indent + 1) s.cursor
        return (.plain text, { s with cursor })

/-- The greatest length of a key. -/
def maxKey : Nat := 1024

/-- Is a leaf, which was read from `start` to `stop`, a key? Then the colon
is on the same line; gives the place of the colon. -/
def colon? (start stop : Cursor) : Option Cursor :=
  let c := stop.blanks
  if start.line = c.line ∧ atValue false c.rest ∧ c.column ≤ start.column + maxKey then some c
  else none

/-- Behind a colon, only tabs may not part a value from it. -/
def partedByTabs (cs : List Char) : Bool :=
  let blanks := cs.takeWhile isBlank
  cs.head? = some '\t' && !blanks.contains ' '
    && (((cs.drop blanks.length).head?.map fun c => c.isAlphanum || c = '-' || c = '_').getD
      false)

/-- Is an entry behind a dash a further dash, with a tab between them? -/
def dashedByTabs (cs : List Char) : Bool :=
  let blanks := cs.takeWhile isBlank
  blanks.contains '\t' && match cs.drop blanks.length with
    | '-' :: rest => atGap rest
    | _ => false

mutual

/-- The node at a place. -/
def block : (fuel : Nat) → Place → State → Option (Node × State)
  | 0, _, _ => none
  | fuel + 1, p, s => do
      let cursor ← s.cursor.skip? (p.indent + 1)
      let p ← if cursor.line = s.cursor.line then some p else p.below?
      let s := { s with cursor }
      let column := cursor.column
      if cursor.isOver ∨ (column : Int) ≤ p.indent then
        let props ← p.properties?
        if ¬cursor.isOver ∧ p.lists ∧ (column : Int) = p.indent ∧ s.atIndicator '-' then
          let (n, s) ← entries fuel column true [] s
          return (n, s.complete props n)
        else
          let n ← props.plain? ""
          return (n, s.complete props n)
      else
        match cursor.rest.head? with
        | some '&' | some '!' =>
            let (q, next) ← property? false s
            let inner ← p.inner.join? q
            block fuel { p with inner, start := some (p.start.getD column) } next
        | some '|' | some '>' =>
            let props ← p.properties?
            let (text, cursor) ← Block.scalar? p.indent cursor
            let n : Node := ⟨.string text, text⟩
            return (n, { s with cursor }.complete props n)
        | _ =>
            if s.atIndicator '-' ∨ s.atIndicator '?' then
              if ¬p.blocks ∨ ¬p.inner.isNone then none
              else
                let (n, s) ←
                  if s.atIndicator '-' then entries fuel column false [] s
                  else members fuel column [] s
                return (n, s.complete p.outer n)
            else
              let (leaf, next) ← leaf? fuel p.indent p.floor s
              match colon? cursor next.cursor with
              | some colon =>
                  if ¬p.blocks then none
                  else
                    let key ← leaf.node? p.inner
                    let next := { next with cursor := colon }.complete p.inner key
                    let (n, s) ← value fuel (p.start.getD column) [] key next
                    return (n, s.complete p.outer n)
              | none =>
                  let props ← p.properties?
                  let n ← leaf.node? props
                  let cursor ← next.cursor.endLine?
                  return (n, { next with cursor }.complete props n)

/-- The entries of a list, each behind a dash in one column; `inKey` tells
whether the list stands in the column of its key. -/
def entries : (fuel column : Nat) → (inKey : Bool) → (done : List Json) → State →
    Option (Node × State)
  | 0, _, _, _, _ => none
  | fuel + 1, column, inKey, done, s => do
      let s := s.step
      if dashedByTabs s.rest then none
      else
        let (n, s) ← block fuel (.plain column false true column) s
        let cursor ← s.cursor.skip? (column + 1)
        let s := { s with cursor }
        let done := n.value :: done
        let whole := some (Node.whole (.array done.reverse), s)
        if cursor.isOver ∨ cursor.column < column then whole
        else if column < cursor.column then none
        else if s.atIndicator '-' then entries fuel column inKey done s
        else if inKey then whole
        else none

/-- The members of a mapping from the next one on; their keys stand in one
column. -/
def members : (fuel column : Nat) → Members → State → Option (Node × State)
  | 0, _, _, _ => none
  | fuel + 1, column, ms, s =>
      if s.atIndicator '?' then do
        if s.step.rest.takeWhile isBlank |>.contains '\t' then none
        else
          let (key, s) ← block fuel (.plain column true true (column + 1)) s.step
          let cursor ← s.cursor.skip? (column + 1)
          let s := { s with cursor }
          if ¬cursor.isOver ∧ cursor.column = column ∧ s.atIndicator ':' then
            let (v, s) ← block fuel (.plain column true true (column + 1)) s.step
            further fuel column (← ms.add? key v) s
          else further fuel column (← ms.add? key (.whole .null)) s
      else do
        let (props, key, next) ← key? fuel column .none s
        let colon ← colon? s.cursor next.cursor
        let key ← key.node? props
        value fuel column ms key ({ next with cursor := colon }.complete props key)

/-- A key with its properties, all on one line. -/
def key? : (fuel column : Nat) → Properties → State → Option (Properties × Leaf × State)
  | 0, _, _, _ => none
  | fuel + 1, column, props, s =>
      match s.rest.head? with
      | some '&' | some '!' => do
          let (q, s) ← property? false s
          key? fuel column (← props.join? q) { s with cursor := s.cursor.blanks }
      | _ => (leaf? fuel column (column + 1) s).map fun (leaf, s) => (props, leaf, s)

/-- The value of a key, whose colon is next, and the members behind it. -/
def value : (fuel column : Nat) → Members → (key : Node) → State → Option (Node × State)
  | 0, _, _, _, _ => none
  | fuel + 1, column, ms, key, s => do
      let s := s.step
      if partedByTabs s.rest then none
      else
        let (v, s) ← block fuel (.plain column true false (column + 1)) s
        further fuel column (← ms.add? key v) s

/-- The mapping with the members so far and those that follow. -/
def further : (fuel column : Nat) → Members → State → Option (Node × State)
  | 0, _, _, _ => none
  | fuel + 1, column, ms, s => do
      let cursor ← s.cursor.skip? (column + 1)
      let s := { s with cursor }
      if cursor.isOver ∨ cursor.column < column then return (ms.node, s)
      else if column < cursor.column then none
      else members fuel column ms s

end

-- ============================================================= documents

/-- Is a text at the marker of three equal characters? -/
def atMarker (mark : Char) (c : Cursor) : Bool :=
  c.column = 0 && isMarker c.rest && c.rest.head? = some mark

/-- Passes over what may stand behind the last document. -/
def afterAll? : (fuel : Nat) → Cursor → Option Unit
  | 0, _ => none
  | fuel + 1, c => do
      let c ← c.skip? 0
      if c.rest.isEmpty then some ()
      else if atMarker '.' c then afterAll? fuel (← (c.drop 3).endLine?)
      else none

/-- The one document from its start on. -/
def document? (fuel : Nat) (blocks : Bool) (c : Cursor) : Option Json := do
  let (n, s) ← block fuel (.plain (-1) false blocks 0) ⟨c, .empty, false⟩
  afterAll? fuel s.cursor
  return n.value

/-- The value of a text from a place before any document on; `directed`
tells whether there were directives. -/
def start? : (fuel : Nat) → (directed : Bool) → Cursor → Option Json
  | 0, _, _ => none
  | fuel + 1, directed, c => do
      let c ← c.skip? 0
      if c.column = 0 ∧ c.rest.head? = some '%' then start? fuel true c.comment
      else if atMarker '-' c then document? fuel false (c.drop 3)
      else if directed then none
      else if c.rest.isEmpty then some (.object [])
      else if atMarker '.' c then start? fuel false (← (c.drop 3).endLine?)
      else document? fuel true c

/-- The value of a text. Every step takes a character or is one of a few
between two characters. -/
def ofText? (s : String) : Option Json :=
  let c := Cursor.start s
  start? (8 * c.rest.length + 16) false c

end TenantGate.Yaml
