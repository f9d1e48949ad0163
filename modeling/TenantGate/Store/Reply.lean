/-
What a store sends back, and what a reply is good for. A number may
come as an integer or as its digits; a text may come as a status, as a
string or as an integer. An absent value and a list are neither, and no
more are bytes that spell no text and an error that stands in a list.

These are the shapes of the second version of the protocol, which is
what a connection speaks unless it asks for another. The third version
also has doubles, truth values, maps, sets and more, some of which would
be good for a number or a text as well; they are left out.
-/
import TenantGate.Text.Number

namespace TenantGate.Store

/-- A reply of the store. -/
inductive Reply where
  | int (n : Int)
  | bulk (s : String)
  | status (s : String)
  /-- A string whose bytes spell no text. -/
  | blob
  /-- An error inside a list. -/
  | fault (text : String)
  | nil
  | array (items : List Reply)
deriving Inhabited

namespace Reply

/-- Is a number one of 64 bits with a sign? -/
def isInt64 (n : Int) : Bool := -0x8000000000000000 ≤ n && n < 0x8000000000000000

/-- The number that a reply is good for. -/
def toInt? : Reply → Option Int
  | int n => if isInt64 n then some n else none
  | bulk s | status s => Text.Number.readInt64? s
  | blob | fault _ | nil | array _ => none

/-- The text that a reply is good for. -/
def toText? : Reply → Option String
  | int n => some (toString n)
  | bulk s | status s => some s
  | blob | fault _ | nil | array _ => none

/-- The three numbers that a reply is good for. -/
def toTriple? : Reply → Option (Int × Int × Int)
  | array [a, b, c] => do return (← a.toInt?, ← b.toInt?, ← c.toInt?)
  | _ => none

/-- A reply is good for three numbers exactly if it lists three replies
that are each good for one. -/
theorem toTriple?_eq_some_iff {r : Reply} {x y z : Int} :
    r.toTriple? = some (x, y, z) ↔
      ∃ a b c, r = .array [a, b, c] ∧ a.toInt? = some x ∧ b.toInt? = some y
        ∧ c.toInt? = some z := by
  unfold toTriple?
  split
  · next a b c =>
    constructor
    · intro h
      simp only [bind, Option.bind_eq_some_iff, pure, Option.some.injEq,
        Prod.mk.injEq] at h
      obtain ⟨x', ha, y', hb, z', hc, rfl, rfl, rfl⟩ := h
      exact ⟨a, b, c, rfl, ha, hb, hc⟩
    · rintro ⟨a', b', c', h, ha, hb, hc⟩
      simp only [array.injEq, List.cons.injEq, and_true] at h
      obtain ⟨rfl, rfl, rfl⟩ := h
      simp [ha, hb, hc]
  · next h =>
    simp only [reduceCtorEq, false_iff, not_exists, not_and]
    rintro a b c rfl
    exact absurd rfl (h a b c)

end Reply

end TenantGate.Store
