/-
After a refusal: how long a tenant has to wait.

The wait that a refusal names is exact in every reachable state, if 64
bits hold the moment at which the oldest record expires. A tenant
that comes back after it, whenever that is, is admitted, and one that
comes back a second earlier or more is refused again, whatever other
tenants do meanwhile and however often its room is looked at. In ledgers
this is a fact about one of them at two times (`Ledger.wait_exact`), for
nothing of what may happen in between books on it (`InMemory.of_run`).
-/
import TenantGate.Proofs.Limit.InMemory
import TenantGate.Proofs.Window.Wait

namespace TenantGate.Limit

open InMemory
open Function (update_self)
open Window (Ledger Verdict maxCount span)

/-- In every reachable state there are sparse ledgers that the windows
follow. -/
theorem exists_ledgers (q : Quota) (start : Nat) (ops : List InMemory.Op)
    (spared : ∀ op ∈ ops, Spares q.seconds op) (clock : start + elapsed ops ≤ maxCount) :
    ∃ l, (inMemory.run q (.start start) ops).2.Follows q.seconds l ∧ Steady q l
      ∧ l.now = start + elapsed ops := by
  refine ⟨(Ledgers.start start).run (ops.map (lower q)),
    follows_run (.start q.seconds start) spared clock, steady_run (steady_start q start) ops,
    ?_⟩
  rw [← elapsed_lower q]
  exact Ledgers.now_run _ _

/-- In every reachable state of limiters over windows in memory: if a
tenant is refused with a wait of `r` seconds, by a sum that fits, then `r`
is at least one and at most the window, and the tenant's next request,
after anything but a closing or a reset, is admitted once `r` seconds have
passed and refused as long as no more than `r - 1` have. -/
theorem consume_after_denial {q : Quota} {start r : Nat} {before between : List InMemory.Op}
    {tenant : Uuid} (spared : ∀ op ∈ before ++ between, Spares q.seconds op)
    (quiet : ∀ op ∈ between, forgets op = false ∧ charges tenant op = false)
    (clock : start + elapsed (before ++ between) ≤ maxCount) :
    let w := (inMemory.run q (.start start) before).2
    let refusal := (inMemory.limiter q () w).consume tenant
    (∀ sum ∈ w.memory.sum? (.ofTenant tenant) q.limit q.seconds, sum ≤ maxCount) →
    refusal.1 = .ok (.denied r) →
      1 ≤ r ∧ r ≤ q.seconds ∧
        let later := (inMemory.run q refusal.2.store between).2
        let again := ((inMemory.limiter q () later).consume tenant).1
        (w.memory.now + 1000 * r ≤ later.memory.now → ∃ left, again = .ok (.admitted left))
          ∧ (later.memory.now ≤ w.memory.now + 1000 * (r - 1) →
            ∃ wait, again = .ok (.denied wait)) := by
  intro w refusal fits denied
  rw [elapsed_append] at clock
  obtain ⟨l, follows, steady, now⟩ := exists_ledgers q start before
    (fun op ho => spared op (List.mem_append_left _ ho)) (by omega)
  -- the refusal, in the ledger
  have told : (w.memory.check (.ofTenant tenant) q.limit q.seconds).1 = .denied r :=
    Except.ok.inj denied
  have answer : Verdict.denied r
      = ((l.of (.ofTenant tenant)).check l.now q.limit (span q.seconds) q.seconds).1 := by
    rw [← told, Memory.check_eq, (follows.logs (.ofTenant tenant)).verdict_check fits,
      follows.clock]
  have refused : ((l.of (.ofTenant tenant)).check l.now q.limit (span q.seconds)
      q.seconds).1.allowed = false := by
    rw [← answer]
    rfl
  have wait : r = (l.of (.ofTenant tenant)).wait l.now (span q.seconds) q.seconds :=
    Verdict.denied.inj (answer.trans (by rw [Ledger.check_of_not_allowed refused]))
  have upTo := (follows.logs (.ofTenant tenant)).upTo
  rw [follows.clock] at upTo
  obtain ⟨pos, le, room, full⟩ := Ledger.wait_exact upTo (steady _) q.limit_pos
    (Nat.min_le_left _ _) refused
  rw [← wait] at pos le room full
  refine ⟨pos, le, ?_⟩
  -- the ledger when the tenant comes back
  intro later again
  let l' := (l.step (lower q (.call () (.consume tenant)))).2
  have charge : (lower q (.call () (.consume tenant))).Fits q.seconds := rfl
  have next : refusal.2.store.Follows q.seconds l' :=
    follows.step charge (show l.now + 0 ≤ maxCount by omega)
  -- neither the refusal nor anything in between touched the ledger
  have same : l'.of (.ofTenant tenant) = l.of (.ofTenant tenant) := by
    rw [of_step_consume, update_self, Ledger.check_of_not_allowed refused]
  have follows' : later.Follows q.seconds (l'.run (between.map (lower q))) :=
    follows_run next (fun op ho => spared op (List.mem_append_right _ ho))
      (show l.now + elapsed between ≤ maxCount by omega)
  have retried := allowed_charge follows' tenant
  rw [of_run quiet, same, ← follows'.clock] at retried
  have answered : again = .ok (later.memory.check (.ofTenant tenant) q.limit q.seconds).1 :=
    consume_eq q later tenant
  rw [follows.clock]
  constructor
  · intro late
    rw [room later.memory.now late] at retried
    obtain ⟨left, admitted⟩ := Verdict.eq_admitted retried
    exact ⟨left, answered.trans (congrArg Except.ok admitted)⟩
  · intro early
    have past : l.now ≤ later.memory.now := by
      rw [follows'.clock, Ledgers.now_run]
      exact Nat.le_add_right _ _
    rw [full later.memory.now past early] at retried
    obtain ⟨wait, denied⟩ := Verdict.eq_denied retried
    exact ⟨wait, answered.trans (congrArg Except.ok denied)⟩

/-- One request a second: who is refused comes back a second later. -/
theorem consume_after_denial_of_a_second :
    let q : Quota := ⟨1, 1, by decide, by decide⟩
    let before : List InMemory.Op := [.call () (.consume default), .upkeep (.advance 1)]
    let between : List InMemory.Op := [.upkeep (.purge 1), .upkeep (.advance 1000)]
    let w := (inMemory.run q (.start 0) before).2
    let refusal := (inMemory.limiter q () w).consume default
    let later := (inMemory.run q refusal.2.store between).2
    w.memory.sum? (.ofTenant default) q.limit q.seconds = some 1000
      ∧ refusal.1 = .ok (.denied 1)
      ∧ ∃ left, ((inMemory.limiter q () later).consume default).1 = .ok (.admitted left) := by
  intro q before between
  have sum : (inMemory.run q (.start 0) before).2.memory.sum? (.ofTenant default) q.limit
      q.seconds = some 1000 := by decide +kernel
  have fits : ∀ sum ∈ (inMemory.run q (.start 0) before).2.memory.sum? (.ofTenant default)
      q.limit q.seconds, sum ≤ maxCount := by
    rw [sum]
    rintro _ ⟨⟩
    decide
  have denied : ((inMemory.limiter q () (inMemory.run q (.start 0) before).2).consume
      default).1 = .ok (.denied 1) := by decide +kernel
  have spared : ∀ op ∈ before ++ between, Spares q.seconds op := by
    simp [before, between, q, Spares]
  have quiet : ∀ op ∈ between, forgets op = false ∧ charges default op = false := by
    simp [between, forgets, charges]
  have clock : 0 + elapsed (before ++ between) ≤ maxCount := by decide
  have back := consume_after_denial spared quiet clock fits denied
  refine ⟨sum, denied, back.2.2.1 ?_⟩
  decide +kernel

end TenantGate.Limit
