/-
What a limiter needs of the place where windows are kept.

A backend is a record of three pure steps on a state of its own, so a
statement about "every backend" quantifies over one value: any answers,
any memory of earlier calls, any faults. `Call` names the steps and
`watched` is a backend that also writes down how it was called.
-/
import TenantGate.Limit.Key
import TenantGate.Limit.Quota
import TenantGate.Window.Verdict

namespace TenantGate.Limit

open Window (Verdict)

/-- Steps on windows kept in a state `σ`. -/
structure Backend (σ : Type) where
  /-- Admits and records a request if there is room. -/
  check : Key → (limit seconds : Nat) → σ → Except Error Verdict × σ
  /-- Counts the room without recording anything. -/
  peek : Key → (limit seconds : Nat) → σ → Except Error Nat × σ
  /-- Lets go of what is held. -/
  close : σ → σ

/-- A step that a backend was asked for. -/
inductive Call where
  | check (key : Key) (limit seconds : Nat)
  | peek (key : Key) (limit seconds : Nat)
  | close
deriving DecidableEq

namespace Backend

variable {σ : Type}

/-- The same backend with the list of its calls, in order. -/
def watched (b : Backend σ) : Backend (σ × List Call) where
  check key limit seconds s :=
    let (r, store) := b.check key limit seconds s.1
    (r, store, s.2 ++ [.check key limit seconds])
  peek key limit seconds s :=
    let (r, store) := b.peek key limit seconds s.1
    (r, store, s.2 ++ [.peek key limit seconds])
  close s := (b.close s.1, s.2 ++ [.close])

/-- A backend that always gives the same two answers. -/
def constant (verdict : Except Error Verdict) (room : Except Error Nat) : Backend Unit where
  check _ _ _ s := (verdict, s)
  peek _ _ _ s := (room, s)
  close s := s

/-- A backend whose every step fails. -/
def failing (e : Error) : Backend Unit := constant (.error e) (.error e)

end Backend

end TenantGate.Limit
