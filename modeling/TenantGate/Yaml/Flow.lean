/-
Nodes between brackets.

Lists and mappings between brackets may go on over several lines, but not
left of a column that the block around them gives. A list may hold single
pairs of key and value. Behind a key between quotes or brackets a value's
colon needs no blank.
-/
import TenantGate.Yaml.Folding
import TenantGate.Yaml.Node

namespace TenantGate.Yaml

/-- How far a text was read. -/
structure State where
  cursor : Cursor
  anchors : Anchors
  /-- Was a plain scalar read between the outermost brackets? -/
  loose : Bool

namespace State

/-- The state behind the next character. -/
def step (s : State) : State := { s with cursor := s.cursor.step }

/-- What comes next. -/
def rest (s : State) : List Char := s.cursor.rest

/-- Completes a node. -/
def complete (p : Properties) (n : Node) (s : State) : State :=
  { s with anchors := s.anchors.complete p.anchor n }

/-- The least column of what stands between brackets, where the block
around them stands at the column `indent`: one more, until a plain scalar
was read. -/
def floor (indent : Int) (s : State) : Int := if s.loose then indent else indent + 1

/-- Passes over blanks, comments and line ends between brackets. -/
def skip? (indent : Int) (s : State) : Option State := do
  let cursor ← s.cursor.skip? (s.floor indent)
  if cursor.isOver ∨ (cursor.column : Int) < s.floor indent then none
  else some { s with cursor }

/-- Is an indicator next: a character with a gap behind it? -/
def atIndicator (mark : Char) (s : State) : Bool :=
  match s.rest with
  | c :: rest => c = mark && atGap rest
  | [] => false

end State

-- ============================================================ properties

/-- The characters of the name of an anchor or tag. -/
def takeName (cs : List Char) : List Char :=
  cs.takeWhile fun c => ¬isBlank c ∧ c ≠ '\n' ∧ ¬isFlow c

/-- May a character stand in a tag? -/
def isTagChar (c : Char) : Bool := c.isAlphanum || c ∈ "-_#;/?:@&=+$.~*'()%".toList

/-- The name of a tag behind its exclamation mark. Between angle brackets
it may hold marks and commas. -/
def takeTag : List Char → List Char
  | '<' :: rest =>
      let inner := rest.takeWhile (· ≠ '>')
      if inner.length < rest.length then '<' :: inner ++ ['>'] else []
  | rest => takeName rest

/-- The tag of a name, where a mark in front stands for the common
vocabulary. A tag between angle brackets is one of no vocabulary. -/
def tag? (name : List Char) : Option String :=
  match name with
  | '!' :: suffix =>
      if suffix.isEmpty ∨ ¬suffix.all isTagChar then none
      else some (common ++ String.ofList suffix)
  | '<' :: inner =>
      if inner.dropLast.all fun c => isTagChar c ∨ c ∈ [',', '!', '[', ']'] then
        some (String.ofList ('<' :: inner))
      else none
  | suffix => if suffix.all isTagChar then some (String.ofList ('!' :: suffix)) else none

/-- The anchor or tag that is next. -/
def property? (flow : Bool) (s : State) : Option (Properties × State) :=
  match s.rest with
  | '&' :: rest =>
      let name := takeName rest
      if name.isEmpty then none
      else
        let (number, anchors) := s.anchors.declare (String.ofList name)
        some (⟨some number, none⟩,
          { s with cursor := s.cursor.drop (name.length + 1), anchors })
  | '!' :: rest =>
      let name := takeTag rest
      let c := s.cursor.drop (name.length + 1)
      if atGap c.rest ∨ (flow ∧ (c.rest.head?.map isFlow).getD false) then
        (tag? name).map fun tag => (⟨none, some tag⟩, { s with cursor := c })
      else none
  | _ => none

/-- The node that an alias stands for. -/
def alias? (s : State) : Option (Node × State) :=
  let name := takeName s.rest.tail
  (s.anchors.resolve? (String.ofList name)).map fun n =>
    (n, { s with cursor := s.cursor.drop (name.length + 1) })

/-- Passes over at most `fuel` properties between brackets. -/
def flowProperties (indent : Int) (p : Properties) (s : State) :
    (fuel : Nat) → Option (Properties × State)
  | 0 => none
  | fuel + 1 =>
      match s.rest with
      | '&' :: _ | '!' :: _ => do
          let (q, s) ← property? true s
          flowProperties indent (← p.join? q) (← s.skip? indent) fuel
      | _ => some (p, s)

-- ================================================================= nodes

/-- A node between brackets, and what it means for a key. -/
structure FlowNode where
  node : Node
  /-- May a value's colon follow without a blank? -/
  closed : Bool

/-- The greatest depth of brackets. -/
def maxDepth : Nat := 255

/-- Goes on to the colon of a value behind a key, if there is one. -/
def toColon? (indent : Int) (closed : Bool) (s : State) : Option (Bool × State) := do
  let near := { s with cursor := s.cursor.blanks }
  if closed ∧ near.rest.head? = some ':' then some (true, near)
  else
    let s ← s.skip? indent
    some (atValue true s.rest, s)

/-- A scalar or an alias between brackets. -/
def flowScalar (indent : Int) (p : Properties) (s : State) : Option (FlowNode × State) :=
  match s.rest with
  | [] => none
  | c :: rest =>
      if c = '*' then
        if p.isNone then (alias? s).map fun (n, s) => (⟨n, false⟩, s) else none
      else if c = '"' ∨ c = '\'' then do
        let (text, cursor) ← quoted? (s.floor indent) s.cursor
        return (⟨⟨.string text, text⟩, true⟩, { s with cursor })
      else if c = ',' ∨ c = ']' ∨ c = '\x7d' ∨ atValue true (c :: rest) then
        if p.isNone then none else (p.plain? "").map fun n => (⟨n, false⟩, s)
      else if c ∈ ['%', '@', '\x60', '#'] ∨ (c ∈ ['-', '?'] ∧ atGap rest) then none
      else if (s.cursor.column : Int) < indent + 1 then none
      else do
        let (text, cursor) ← plain? true (indent + 1) s.cursor
        return (⟨← p.plain? text, false⟩, { s with cursor, loose := true })

mutual

/-- The node that is next. -/
def flowNode : (fuel depth : Nat) → (indent : Int) → State → Option (FlowNode × State)
  | 0, _, _, _ => none
  | fuel + 1, depth, indent, s => do
      let (p, s) ← flowProperties indent .none s 3
      let (n, s) ← match s.rest with
        | '[' :: _ =>
            if maxDepth ≤ depth then none
            else (flowItems fuel (depth + 1) indent [] s.step).map fun (n, s) => (⟨n, true⟩, s)
        | '\x7b' :: _ =>
            if maxDepth ≤ depth then none
            else (flowMembers fuel (depth + 1) indent [] s.step).map fun (n, s) => (⟨n, true⟩, s)
        | _ => flowScalar indent p s
      return (n, s.complete p n.node)

/-- The value behind a colon, null if there is none before the next comma
or bracket. -/
def flowValue : (fuel depth : Nat) → (indent : Int) → State → Option (Node × State)
  | 0, _, _, _ => none
  | fuel + 1, depth, indent, s => do
      let s ← s.skip? indent
      match s.rest with
      | ',' :: _ | ']' :: _ | '\x7d' :: _ => some (.whole .null, s)
      | _ => (flowNode fuel depth indent s).map fun (n, s) => (n.node, s)

/-- A pair of key and value, or a node without a value; `single` tells
whether a pair's colon must stand on the line where its key starts. -/
def flowPair : (fuel depth : Nat) → (indent : Int) → (single : Bool) → State →
    Option (Node × Option Node × State)
  | 0, _, _, _, _ => none
  | fuel + 1, depth, indent, single, s =>
      if s.atIndicator '?' then do
        let (key, s) ← flowNode fuel depth indent (← s.step.skip? indent)
        let (colon, s) ← toColon? indent key.closed s
        if colon then
          let (v, s) ← flowValue fuel depth indent s.step
          return (key.node, some v, s)
        else return (key.node, some (.whole .null), s)
      else do
        let (key, next) ← flowNode fuel depth indent s
        let (colon, next) ← toColon? indent key.closed next
        if colon then
          if single ∧ next.cursor.line ≠ s.cursor.line then none
          else
            let (v, next) ← flowValue fuel depth indent next.step
            return (key.node, some v, next)
        else return (key.node, none, next)

/-- The items up to the bracket; `done` has the last one first. -/
def flowItems : (fuel depth : Nat) → (indent : Int) → (done : List Json) → State →
    Option (Node × State)
  | 0, _, _, _, _ => none
  | fuel + 1, depth, indent, done, s => do
      let s ← s.skip? indent
      if s.rest.head? = some ']' then return (.whole (.array done.reverse), s.step)
      else
        let (key, value, s) ← flowPair fuel depth indent true s
        let item ← match value with
          | some v => (Members.add? key v []).map Members.node
          | none => some key
        let s ← s.skip? indent
        match s.rest with
        | ',' :: _ => flowItems fuel depth indent (item.value :: done) s.step
        | ']' :: _ => return (.whole (.array (item.value :: done).reverse), s.step)
        | _ => none

/-- The members up to the bracket. -/
def flowMembers : (fuel depth : Nat) → (indent : Int) → Members → State → Option (Node × State)
  | 0, _, _, _, _ => none
  | fuel + 1, depth, indent, ms, s => do
      let s ← s.skip? indent
      if s.rest.head? = some '\x7d' then return (ms.node, s.step)
      else
        let (key, value, s) ← flowPair fuel depth indent false s
        let ms ← ms.add? key (value.getD (.whole .null))
        let s ← s.skip? indent
        match s.rest with
        | ',' :: _ => flowMembers fuel depth indent ms s.step
        | '\x7d' :: _ => return (ms.node, s.step)
        | _ => none

end

end TenantGate.Yaml
