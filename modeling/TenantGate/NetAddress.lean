/-
The addresses that a server listens on: a host and a port, written
`1.2.3.4:80` or `[1:2::3]:80`.

A host of version six is eight groups of sixteen bits. `::` stands for
groups that are zero, and the last two groups may be written as a host
of version four. A scope follows a percent sign. Of the many spellings
one is written: the fewest digits, and `::` for the longest run of at
least two zero groups, the first of several equally long ones.
-/
import TenantGate.Text.Hex

namespace TenantGate

/-- Where a server listens. -/
inductive NetAddress where
  | four (host : Vector UInt8 4) (port : UInt16)
  | six (host : Vector UInt16 8) (scope : UInt32) (port : UInt16)
deriving DecidableEq

namespace NetAddress

/-- A port of the machine itself. -/
def loopback (port : UInt16) : NetAddress := .four (#v[127, 0, 0, 1].map UInt8.ofNat) port

instance : Inhabited NetAddress := ⟨loopback 80⟩

-- ============================================================ reading

/-- The value of a digit of a base. -/
def digit? (base : Nat) (c : Char) : Option Nat := (Text.Hex.value? c).filter (· < base)

/-- The digits at the front of a text. -/
structure Digits where
  value : Nat
  count : Nat
  /-- Is the first digit a zero? -/
  padded : Bool
  rest : List Char

/-- The digits of a base at the front of a text, and what follows. -/
def Digits.ofFront (base : Nat) (cs : List Char) : Digits :=
  let ds := cs.takeWhile fun c => (digit? base c).isSome
  ⟨ds.foldl (fun n c => base * n + (digit? base c).getD 0) 0, ds.length,
    ds.head? = some '0', cs.drop ds.length⟩

/-- A number of at most `bound` with any number of digits. -/
def number? (bound : Nat) (cs : List Char) : Option (Nat × List Char) :=
  let d := Digits.ofFront 10 cs
  if 0 < d.count ∧ d.value ≤ bound then some (d.value, d.rest) else none

/-- A byte in decimal digits without needless zeros. -/
def octet? (cs : List Char) : Option (UInt8 × List Char) :=
  let d := Digits.ofFront 10 cs
  if 0 < d.count ∧ d.value ≤ 255 ∧ (d.count = 1 ∨ ¬d.padded) then some (d.value.toUInt8, d.rest)
  else none

/-- Sixteen bits in at most four hexadecimal digits. -/
def group? (cs : List Char) : Option (UInt16 × List Char) :=
  let d := Digits.ofFront 16 cs
  if 0 < d.count ∧ d.count ≤ 4 then some (d.value.toUInt16, d.rest) else none

/-- What follows a character at the front of a text. -/
def after? (mark : Char) : List Char → Option (List Char)
  | c :: cs => if c = mark then some cs else none
  | [] => none

/-- A host of version four. -/
def hostFour? (cs : List Char) : Option (Vector UInt8 4 × List Char) := do
  let (a, cs) ← octet? cs
  let (b, cs) ← octet? (← after? '.' cs)
  let (c, cs) ← octet? (← after? '.' cs)
  let (d, cs) ← octet? (← after? '.' cs)
  return (#v[a, b, c, d], cs)

/-- The group of two bytes. -/
def joined (high low : UInt8) : UInt16 := 256 * high.toUInt16 + low.toUInt16

/-- Two groups that are written as a host of version four. -/
def dottedGroups? (cs : List Char) : Option (List UInt16 × List Char) :=
  (hostFour? cs).map fun (h, cs) =>
    ([joined h[0] h[1], joined h[2] h[3]], cs)

/-- Groups at the front of a text. -/
structure Groups where
  list : List UInt16
  /-- Are the last two written as a host of version four? -/
  dotted : Bool
  rest : List Char

/-- As many groups as there are, at most `room`, with colons between
them; `start` tells whether the first of them is read here. -/
def Groups.ofFront : (room : Nat) → (start : Bool) → List Char → Groups
  | 0, _, cs => ⟨[], false, cs⟩
  | room + 1, start, cs =>
      match if start then some cs else after? ':' cs with
      | none => ⟨[], false, cs⟩
      | some inner =>
          match if room = 0 then none else dottedGroups? inner with
          | some (gs, rest) => ⟨gs, true, rest⟩
          | none =>
              match group? inner with
              | some (g, rest) =>
                  let more := ofFront room false rest
                  { more with list := g :: more.list }
              | none => ⟨[], false, cs⟩

/-- Eight groups, with zeros between two parts. -/
def filled (head tail : List UInt16) : Vector UInt16 8 :=
  let all := head ++ List.replicate (8 - head.length - tail.length) 0 ++ tail
  .ofFn fun i => all.getD i.1 0

/-- A host of version six. -/
def hostSix? (cs : List Char) : Option (Vector UInt16 8 × List Char) :=
  let head := Groups.ofFront 8 true cs
  if head.list.length = 8 then some (filled head.list [], head.rest)
  else if head.dotted then none
  else
    match head.rest with
    | ':' :: ':' :: rest =>
        let tail := Groups.ofFront (7 - head.list.length) true rest
        some (filled head.list tail.list, tail.rest)
    | _ => none

/-- A scope behind a percent sign, zero where there is none. -/
def takeScope (cs : List Char) : UInt32 × List Char :=
  match (after? '%' cs).bind (number? 0xFFFFFFFF) with
  | some (n, rest) => (n.toUInt32, rest)
  | none => (0, cs)

/-- A port that is the rest of a text. -/
def port? (cs : List Char) : Option UInt16 :=
  match (after? ':' cs).bind (number? 0xFFFF) with
  | some (n, []) => some n.toUInt16
  | _ => none

/-- The address of a text. -/
def ofText? (s : String) : Option NetAddress :=
  match s.toList with
  | '[' :: cs => do
      let (host, cs) ← hostSix? cs
      let (scope, cs) := takeScope cs
      return .six host scope (← port? (← after? ']' cs))
  | cs => do
      let (host, cs) ← hostFour? cs
      return .four host (← port? cs)

-- ============================================================ writing

/-- A host of version four. -/
def writeFour (h : Vector UInt8 4) : String :=
  ".".intercalate (h.toList.map fun b => toString b.toNat)

/-- Groups with colons between them. -/
def writeGroups (gs : List UInt16) : String :=
  ":".intercalate (gs.map fun g => String.ofList (Text.Hex.minimal Text.Hex.digit g.toNat))

/-- How many groups are zero from a place on. -/
def zerosFrom (gs : List UInt16) (i : Nat) : Nat := ((gs.drop i).takeWhile (· = 0)).length

/-- Where the longest run of zero groups starts, the first if several are
as long, and its length. -/
def longestZeros (gs : List UInt16) : Nat × Nat :=
  (List.range gs.length).foldl
    (fun best i => if best.2 < zerosFrom gs i then (i, zerosFrom gs i) else best) (0, 0)

/-- The host of version four that groups stand for. -/
def embedded? (gs : List UInt16) : Option (Vector UInt8 4) :=
  match gs with
  | [0, 0, 0, 0, 0, 0xFFFF, a, b] =>
      some #v[(a >>> 8).toUInt8, a.toUInt8, (b >>> 8).toUInt8, b.toUInt8]
  | _ => none

/-- A host of version six. -/
def writeSix (h : Vector UInt16 8) : String :=
  let gs := h.toList
  match embedded? gs with
  | some h => "::ffff:" ++ writeFour h
  | none =>
      let (start, length) := longestZeros gs
      if length ≤ 1 then writeGroups gs
      else writeGroups (gs.take start) ++ "::" ++ writeGroups (gs.drop (start + length))

/-- The text of an address. -/
def text : NetAddress → String
  | four host port => writeFour host ++ ":" ++ toString port.toNat
  | six host scope port =>
      "[" ++ writeSix host ++ (if scope = 0 then "" else "%" ++ toString scope.toNat)
        ++ "]:" ++ toString port.toNat

/-- Does a host of version four name the machine itself, or no host? -/
def isOwnFour (h : Vector UInt8 4) : Bool := h[0] = 127 || h = #v[0, 0, 0, 0]

/-- Can an address be bound on any machine? It can if it names the
machine itself or no host. -/
def isOwn : NetAddress → Bool
  | four host _ => isOwnFour host
  | six host _ _ =>
      host = #v[0, 0, 0, 0, 0, 0, 0, 1] || host = #v[0, 0, 0, 0, 0, 0, 0, 0]
        || (embedded? host.toList).any isOwnFour

end NetAddress

end TenantGate
