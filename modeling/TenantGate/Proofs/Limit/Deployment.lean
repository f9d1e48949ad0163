/-
Limiters at work: who calls, over which backend, and what else happens.

A `Deployment` says how callers reach a shared state and what upkeep, such
as the passing of time, the state sees between calls. All limiters of a
deployment have one quota. A run is any interleaving of calls and upkeep,
and it leaves an `Event` for every call: when, what, and the answer.

# Booked runs

`Booked` ties the events of a run to the ledgers of the tenants: with each
step a tenant's ledger stays, or it takes one admission, at the time of
the step and only if there was room, and every admission that was
answered is among those. The other way round need not hold: an admission
may be recorded and its answer get lost.

That is all that the bound on admissions needs. Whatever keeps its
windows, if its runs are booked then no interval of the length of the
window holds more than the limit (`Booked.length_within_le`).
-/
import Mathlib.Logic.Function.Basic
import TenantGate.Limit.Limiter
import TenantGate.Proofs.Window.Ledger

namespace TenantGate.Limit

open Function (update update_of_ne update_self)
open Window (Ledger Verdict)

/-- Two tenants do not share a window. -/
theorem Key.ofTenant_injective : Function.Injective Key.ofTenant := by
  intro a b h
  have text : a.text = b.text :=
    (String.append_right_inj "ratelimit:").1 (congrArg Key.text h)
  have read := congrArg Uuid.ofText? text
  rw [Uuid.ofText?_text, Uuid.ofText?_text] at read
  exact Option.some.inj read

-- ======================================================= calls, answers

namespace Limiter

/-- What a limiter can be asked for. -/
inductive Call where
  | consume (tenant : Uuid)
  | remaining (tenant : Uuid)
  | remainingOrZero (tenant : Uuid)
  | close
deriving DecidableEq

/-- What it answers. -/
inductive Answer where
  | verdict (r : Except Error Verdict)
  | room (r : Except Error Nat)
  | shown (n : Nat)
  | closed

def serve {σ : Type} (l : Limiter σ) : Call → Answer × Limiter σ
  | .consume tenant =>
      let (r, l) := l.consume tenant
      (.verdict r, l)
  | .remaining tenant =>
      let (r, l) := l.remaining tenant
      (.room r, l)
  | .remainingOrZero tenant =>
      let (n, l) := l.remainingOrZero tenant
      (.shown n, l)
  | .close => (.closed, l.close)

end Limiter

/-- A backend on a part of a larger state. -/
def Backend.lift {σ τ : Type} (get : τ → σ) (set : τ → σ → τ) (b : Backend σ) :
    Backend τ where
  check key limit seconds t :=
    let (r, s) := b.check key limit seconds (get t)
    (r, set t s)
  peek key limit seconds t :=
    let (r, s) := b.peek key limit seconds (get t)
    (r, set t s)
  close t := set t (b.close (get t))

-- ========================================================== deployments

/-- A shared state: the backend of each caller, the upkeep, and the clock
in milliseconds. -/
structure Deployment (σ ι ε : Type) where
  backend : ι → Backend σ
  upkeep : ε → σ → σ
  now : σ → Nat

namespace Deployment

/-- What happens in a deployment. -/
inductive Op (ι ε : Type) where
  | call (caller : ι) (c : Limiter.Call)
  | upkeep (e : ε)
deriving DecidableEq

/-- A call that was made. -/
structure Event where
  now : Nat
  call : Limiter.Call
  answer : Limiter.Answer

/-- When the event admitted a request of the tenant, if it did. -/
def Event.admission? (tenant : Uuid) (e : Event) : Option Nat :=
  match e.call, e.answer with
  | .consume caller, .verdict (.ok v) =>
      if caller = tenant ∧ v.allowed then some e.now else none
  | _, _ => none

/-- The times at which requests of the tenant were admitted. -/
def admissions (tenant : Uuid) (events : List Event) : List Nat :=
  events.filterMap (·.admission? tenant)

variable {σ ι ε : Type}

def limiter (d : Deployment σ ι ε) (q : Quota) (caller : ι) (s : σ) : Limiter σ :=
  ⟨d.backend caller, q, s⟩

/-- One step, with the events that it leaves. -/
def step (d : Deployment σ ι ε) (q : Quota) (s : σ) : Op ι ε → List Event × σ
  | .call caller c =>
      let (a, l) := (d.limiter q caller s).serve c
      ([⟨d.now s, c, a⟩], l.store)
  | .upkeep e => ([], d.upkeep e s)

/-- The events of a run, and the state after it. -/
def run (d : Deployment σ ι ε) (q : Quota) (s : σ) : List (Op ι ε) → List Event × σ
  | [] => ([], s)
  | op :: ops =>
      let (events, s) := d.step q s op
      let (rest, s) := d.run q s ops
      (events ++ rest, s)

-- ========================================================== booked runs

/-- What a step did to a tenant: nothing, or one admission at `now`, for
which there was room; `answered` are the admissions that were answered. -/
inductive Entry (limit span now : Nat) (l l' : Ledger) (answered : List Nat) : Prop
  | stays (same : l' = l) (silent : answered = [])
  | admits (more : l' = ⟨l.times ++ [now]⟩) (room : (l.live now span).length < limit)
      (known : answered.Sublist [now])

/-- A charge to `caller` that checks its ledger is an entry of every
tenant, if its answer, where there is one, allows what the check allows. -/
theorem Entry.of_charge {limit span seconds now : Nat} {l : Key → Ledger}
    {caller : Uuid} {r : Except Error Verdict} (tenant : Uuid)
    (known : ∀ v, r = .ok v →
      v.allowed = ((l (.ofTenant caller)).check now limit span seconds).1.allowed) :
    Entry limit span now (l (.ofTenant tenant))
      (update l (.ofTenant caller)
        ((l (.ofTenant caller)).check now limit span seconds).2 (.ofTenant tenant))
      (admissions tenant [⟨now, .consume caller, .verdict r⟩]) := by
  by_cases e : caller = tenant
  · subst e
    rw [update_self]
    cases hv : ((l (.ofTenant caller)).check now limit span seconds).1.allowed with
    | false =>
        refine .stays (by rw [Ledger.check_of_not_allowed hv]) ?_
        cases r with
        | error => rfl
        | ok v =>
            have refused := (known v rfl).trans hv
            simp [admissions, Event.admission?, refused]
    | true =>
        refine .admits (by rw [Ledger.check_of_allowed hv])
          (Ledger.allowed_check_iff_room.1 hv) ?_
        cases r with
        | error => exact List.nil_sublist _
        | ok v =>
            have allowed := (known v rfl).trans hv
            simp [admissions, Event.admission?, allowed]
  · have keys : Key.ofTenant tenant ≠ Key.ofTenant caller :=
      fun k => e (Key.ofTenant_injective k).symm
    rw [update_of_ne keys]
    refine .stays rfl ?_
    cases r with
    | error => rfl
    | ok v => simp [admissions, Event.admission?, e]

/-- The events of a run and the ledgers before and after it. -/
inductive Booked (limit span : Nat) :
    (Key → Ledger) → List Event → (Key → Ledger) → Prop
  | nil (l : Key → Ledger) : Booked limit span l [] l
  | cons {l l' l'' : Key → Ledger} {events rest : List Event} (now : Nat)
      (entry : ∀ tenant, Entry limit span now (l (.ofTenant tenant)) (l' (.ofTenant tenant))
        (admissions tenant events)) :
      Booked limit span l' rest l'' → Booked limit span l (events ++ rest) l''

namespace Booked

variable {limit span : Nat} {l l' : Key → Ledger} {events : List Event}

/-- What is booked to a tenant is added to its ledger, and the answered
admissions are part of it. -/
theorem exists_times (h : Booked limit span l events l') (tenant : Uuid) :
    ∃ new, (l' (.ofTenant tenant)).times = (l (.ofTenant tenant)).times ++ new
      ∧ (admissions tenant events).Sublist new := by
  induction h with
  | nil l => exact ⟨[], (List.append_nil _).symm, List.Sublist.refl _⟩
  | cons now entry _ ih =>
      obtain ⟨new, e, sub⟩ := ih
      unfold admissions at entry sub ⊢
      rw [List.filterMap_append]
      cases entry tenant with
      | stays same silent =>
          refine ⟨new, by rw [e, same], ?_⟩
          rw [silent]
          exact sub
      | admits more _ known =>
          refine ⟨now :: new, ?_, known.append sub⟩
          rw [e, more, List.append_assoc]
          rfl

theorem sparse (h : Booked limit span l events l') (tenant : Uuid)
    (start : (l (.ofTenant tenant)).Sparse limit span) :
    (l' (.ofTenant tenant)).Sparse limit span := by
  induction h with
  | nil l => exact start
  | cons now entry _ ih =>
      apply ih
      cases entry tenant with
      | stays same _ =>
          rw [same]
          exact start
      | admits more room _ =>
          rw [more]
          exact Ledger.sparse_append start room

/-- From empty ledgers on, no interval that is at most as long as the
window holds more than `limit` answered admissions of a tenant. -/
theorem length_within_le (h : Booked limit span (fun _ => .empty) events l')
    (tenant : Uuid) (a : Nat) {length : Nat} (le : length ≤ span) :
    (Ledger.within a length (admissions tenant events)).length ≤ limit := by
  obtain ⟨new, e, sub⟩ := h.exists_times tenant
  have bound := h.sparse tenant (Ledger.sparse_empty limit span) a
  rw [e] at bound
  calc (Ledger.within a length (admissions tenant events)).length
      ≤ (Ledger.within a length new).length := (sub.filter _).length_le
    _ ≤ (Ledger.within a span new).length := by
        refine (List.monotone_filter_right new fun t ht => ?_).length_le
        simp only [decide_eq_true_eq] at ht ⊢
        omega
    _ ≤ limit := bound

end Booked

end Deployment

end TenantGate.Limit
