/-
Limiters over windows in memory.

`inMemory` is the deployment: one process, its windows with their
sweepers, and as upkeep the clock, purges, sweepers that start, and
resets. Every step of it is one operation on the windows (`step_eq`), a
call with the limit and the window of the quota. So a run of limiters is
a run of the windows, ledgers follow it, and

- `steady_run`: in every reachable state, whatever was closed or reset,
  the ledger of each tenant is sparse;
- `booked_run`: a run without closing and resetting is booked.

Both need purges and sweepers to use the window of the quota or a longer
one, and a clock that does not start again.
-/
import TenantGate.Proofs.Limit.Deployment
import TenantGate.Proofs.Limit.Ledgers

namespace TenantGate.Limit

open Function (update update_of_ne update_self)
open Window (Ledger Verdict maxCount span)

/-- The windows of one process, sweepers included, as a backend. -/
def Swept.backend : Backend Swept :=
  Memory.backend.lift Swept.memory fun w memory => { w with memory }

/-- What windows in memory go through besides the calls. -/
inductive Upkeep where
  | advance (ms : Nat)
  | purge (seconds : Nat)
  | sweep (seconds : Nat)
  | reset
deriving DecidableEq

/-- The operation on the windows that upkeep is. -/
def Upkeep.op : Upkeep → Swept.Op
  | advance ms => .advance ms
  | purge seconds => .purge seconds
  | sweep seconds => .sweep seconds
  | reset => .reset

/-- Limiters over windows in memory. -/
def inMemory : Deployment Swept Unit Upkeep where
  backend _ := Swept.backend
  upkeep e w := (w.step e.op).2
  now w := w.memory.now

namespace InMemory

abbrev Op := Deployment.Op Unit Upkeep

/-- The operation on the windows that a step is, for a quota. -/
def lower (q : Quota) : Op → Swept.Op
  | .call _ (.consume tenant) => .check (.ofTenant tenant) q.limit q.seconds
  | .call _ (.remaining tenant) => .peek (.ofTenant tenant) q.limit q.seconds
  | .call _ (.remainingOrZero tenant) => .peek (.ofTenant tenant) q.limit q.seconds
  | .call _ .close => .close
  | .upkeep e => e.op

/-- No purge and no sweeper uses a window shorter than `seconds`. -/
def Spares (seconds : Nat) : Op → Prop
  | .upkeep (.purge window) | .upkeep (.sweep window) => seconds ≤ window
  | _ => True

/-- Are all admissions forgotten? -/
def forgets : Op → Bool
  | .call _ .close | .upkeep .reset => true
  | _ => false

/-- Is the tenant charged? -/
def charges (tenant : Uuid) : Op → Bool
  | .call _ (.consume caller) => caller = tenant
  | _ => false

/-- The time that a step takes. -/
def time : Op → Nat
  | .upkeep (.advance ms) => ms
  | _ => 0

def elapsed : List Op → Nat
  | [] => 0
  | op :: ops => time op + elapsed ops

-- ================================================ steps as operations

variable {q : Quota} {l : Ledgers} {w : Swept}

theorem step_eq (q : Quota) (w : Swept) (op : Op) :
    (inMemory.step q w op).2 = (w.step (lower q op)).2 := by
  rcases op with ⟨_, _ | _ | _ | _⟩ | _ | _ | _ | _
  all_goals rfl

theorem run_eq (q : Quota) (w : Swept) (ops : List Op) :
    (inMemory.run q w ops).2 = (w.run (ops.map (lower q))).2 := by
  induction ops generalizing w with
  | nil => rfl
  | cons op ops ih =>
      show (inMemory.run q (inMemory.step q w op).2 ops).2
        = ((w.step (lower q op)).2.run (ops.map (lower q))).2
      rw [ih, step_eq]

theorem fits_lower {op : Op} (h : Spares q.seconds op) : (lower q op).Fits q.seconds := by
  rcases op with ⟨_, _ | _ | _ | _⟩ | _ | _ | _ | _
  case upkeep.purge | upkeep.sweep => exact h
  case call.close | upkeep.advance | upkeep.reset => trivial
  all_goals exact rfl

theorem time_lower (q : Quota) (op : Op) : (lower q op).elapsed = time op := by
  rcases op with ⟨_, _ | _ | _ | _⟩ | _ | _ | _ | _
  all_goals rfl

theorem elapsed_lower (q : Quota) (ops : List Op) :
    Swept.elapsed (ops.map (lower q)) = elapsed ops := by
  induction ops with
  | nil => rfl
  | cons op ops ih =>
      show (lower q op).elapsed + Swept.elapsed (ops.map (lower q)) = time op + elapsed ops
      rw [time_lower, ih]

theorem elapsed_append (ops later : List Op) :
    elapsed (ops ++ later) = elapsed ops + elapsed later := by
  induction ops with
  | nil => exact (Nat.zero_add _).symm
  | cons op ops ih =>
      show time op + elapsed (ops ++ later) = time op + elapsed ops + elapsed later
      rw [ih, Nat.add_assoc]

theorem follows_run (h : w.Follows q.seconds l) {ops : List Op}
    (spared : ∀ op ∈ ops, Spares q.seconds op) (clock : l.now + elapsed ops ≤ maxCount) :
    (inMemory.run q w ops).2.Follows q.seconds (l.run (ops.map (lower q))) := by
  rw [run_eq]
  refine h.run (fun lowered hl => ?_) (by rw [elapsed_lower]; exact clock)
  obtain ⟨op, ho, rfl⟩ := List.mem_map.1 hl
  exact fits_lower (spared op ho)

-- ============================================================ a charge

theorem of_step_consume (q : Quota) (l : Ledgers) (u : Unit) (tenant : Uuid) :
    (l.step (lower q (.call u (.consume tenant)))).2.of
      = update l.of (.ofTenant tenant)
          ((l.of (.ofTenant tenant)).check l.now q.limit (span q.seconds) q.seconds).2 := rfl

theorem consume_eq (q : Quota) (w : Swept) (tenant : Uuid) :
    ((inMemory.limiter q () w).consume tenant).1
      = .ok (w.memory.check (.ofTenant tenant) q.limit q.seconds).1 := rfl

/-- A charge is admitted where the tenant's ledger admits. -/
theorem allowed_charge (h : w.Follows q.seconds l) (tenant : Uuid) :
    (w.memory.check (.ofTenant tenant) q.limit q.seconds).1.allowed
      = ((l.of (.ofTenant tenant)).check l.now q.limit (span q.seconds)
          q.seconds).1.allowed := by
  rw [Memory.check_eq, (h.logs (.ofTenant tenant)).allowed_check, h.clock]

-- ============================================== what the ledgers hold

/-- The ledgers of all tenants are sparse, for the quota. -/
def Steady (q : Quota) (l : Ledgers) : Prop :=
  ∀ key, (l.of key).Sparse q.limit (span q.seconds)

theorem steady_start (q : Quota) (now : Nat) : Steady q (.start now) :=
  fun _ => Ledger.sparse_empty _ _

theorem steady_step (h : Steady q l) (op : Op) : Steady q (l.step (lower q op)).2 := by
  rcases op with ⟨_, tenant | _ | _ | _⟩ | _ | _ | _ | _
  case call.consume =>
    intro key
    rw [of_step_consume]
    by_cases e : key = .ofTenant tenant
    · rw [e, update_self]
      exact (h _).check (Nat.le_refl _)
    · rw [update_of_ne e]
      exact h key
  case call.close | upkeep.reset => exact fun _ => Ledger.sparse_empty _ _
  all_goals exact h

theorem steady_run (h : Steady q l) (ops : List Op) :
    Steady q (l.run (ops.map (lower q))) := by
  induction ops generalizing l with
  | nil => exact h
  | cons op ops ih => exact ih (steady_step h op)

/-- Who is not charged keeps the ledger. -/
theorem of_run {tenant : Uuid} {ops : List Op}
    (quiet : ∀ op ∈ ops, forgets op = false ∧ charges tenant op = false) :
    (l.run (ops.map (lower q))).of (.ofTenant tenant) = l.of (.ofTenant tenant) := by
  induction ops generalizing l with
  | nil => rfl
  | cons op ops ih =>
      refine (ih fun o ho => quiet o (List.mem_cons_of_mem _ ho)).trans ?_
      obtain ⟨kept, free⟩ := quiet op List.mem_cons_self
      rcases op with ⟨_, caller | _ | _ | _⟩ | _ | _ | _ | _
      case call.consume =>
        have other : ¬caller = tenant := of_decide_eq_false free
        rw [of_step_consume]
        exact update_of_ne (fun e => other (Key.ofTenant_injective e).symm) _ _
      case call.close | upkeep.reset => cases kept
      all_goals rfl

-- ========================================================== booked runs

open Deployment (Booked Entry admissions)

/-- What one step books, if nothing is forgotten. -/
theorem entry_step (h : w.Follows q.seconds l) {op : Op} (kept : forgets op = false)
    (tenant : Uuid) :
    Entry q.limit (span q.seconds) l.now (l.of (.ofTenant tenant))
      ((l.step (lower q op)).2.of (.ofTenant tenant))
      (admissions tenant (inMemory.step q w op).1) := by
  rcases op with ⟨_, caller | _ | _ | _⟩ | _ | _ | _ | _
  case call.close | upkeep.reset => cases kept
  case call.consume =>
    have events : (inMemory.step q w (.call () (.consume caller))).1
        = [⟨w.memory.now, .consume caller,
            .verdict ((inMemory.limiter q () w).consume caller).1⟩] := rfl
    rw [events, consume_eq, h.clock, of_step_consume]
    refine .of_charge tenant fun v e => ?_
    rw [← Except.ok.inj e, allowed_charge h]
  all_goals exact .stays rfl rfl

theorem booked_run (h : w.Follows q.seconds l) {ops : List Op}
    (spared : ∀ op ∈ ops, Spares q.seconds op ∧ forgets op = false)
    (clock : l.now + elapsed ops ≤ maxCount) :
    Booked q.limit (span q.seconds) l.of (inMemory.run q w ops).1
      (l.run (ops.map (lower q))).of := by
  induction ops generalizing w l with
  | nil => exact .nil _
  | cons op ops ih =>
      obtain ⟨spares, kept⟩ := spared op List.mem_cons_self
      have total : l.now + (time op + elapsed ops) ≤ maxCount := clock
      have next := h.step (fits_lower spares) (by rw [time_lower]; omega)
      rw [← step_eq] at next
      refine .cons l.now (entry_step h kept)
        (ih next (fun o ho => spared o (List.mem_cons_of_mem _ ho)) ?_)
      rw [Ledgers.now_step, time_lower]
      omega

end InMemory

end TenantGate.Limit
