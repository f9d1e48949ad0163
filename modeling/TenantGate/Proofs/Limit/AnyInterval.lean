/-
No interval of the length of the window admits more than the limit.

The code looks at the window that ends now and drops what is older, at
times that depend on who calls and on sweepers and on keys that end. The
bound is about every interval, wherever it starts. Both places where
windows are kept have booked runs (`InMemory.booked_run`,
`Shared.booked_run`), and booked runs keep the bound
(`Booked.length_within_le`). In the store the ledgers look back the whole
window, and in memory no farther than `maxCount`; the interval of the
theorem is the shorter of the two.
-/
import TenantGate.Proofs.Limit.InMemory
import TenantGate.Proofs.Store.Fleet

namespace TenantGate.Limit

open Deployment (admissions)
open InMemory (Spares elapsed forgets)
open Store (shared)
open Store.Shared (Honest)
open Window (Ledger maxCount span)

/-- For every quota and tenant, and for every `a`: of the tenant's
requests in a run, at most `limit` are admitted at times from `a` on and
before the length of the window has passed. In memory this is so with
purges and sweepers at any time, and in a store with any number of
instances, closing, connecting again, and whatever failures. -/
theorem length_admitted_le (q : Quota) (tenant : Uuid) (a : Nat) :
    (∀ (start : Nat) (ops : List InMemory.Op),
        (∀ op ∈ ops, Spares q.seconds op ∧ forgets op = false) →
        start + elapsed ops ≤ maxCount →
          (Ledger.within a (span q.seconds)
            (admissions tenant (inMemory.run q (.start start) ops).1)).length ≤ q.limit)
      ∧ ∀ (micros : Nat) (ops : List Store.Shared.Op), (∀ op ∈ ops, Honest op) →
          (Ledger.within a (span q.seconds)
            (admissions tenant (shared.run q (.start micros) ops).1)).length ≤ q.limit := by
  constructor
  · intro start ops spared clock
    have booked := InMemory.booked_run (.start q.seconds start) spared clock
    exact booked.length_within_le tenant a (Nat.le_refl _)
  · intro micros ops honest
    obtain ⟨ledgers, booked⟩ := Store.Shared.booked_run (.start q.seconds micros) honest
    exact booked.length_within_le tenant a (Nat.min_le_left _ _)

/-- One request a second, over the windows in memory with a purge and over
a store that two instances share and that fails in between. -/
theorem length_admitted_le_one_a_second :
    let q : Quota := ⟨1, 1, by decide, by decide⟩
    let ops : List InMemory.Op :=
      [.call () (.consume default), .upkeep (.advance 999), .call () (.consume default),
        .upkeep (.purge 1), .upkeep (.advance 1), .call () (.consume default)]
    let faulty : List Store.Shared.Op :=
      [.call 0 (.consume default), .upkeep (.advance 999000), .upkeep (.script .silent),
        .call 1 (.consume default), .upkeep (.script .proper), .call 1 (.consume default),
        .call 0 .close, .upkeep (.advance 1000), .call 0 (.consume default)]
    (admissions default (inMemory.run q (.start 0) ops).1 = [0, 1000]
        ∧ (Ledger.within 1 (span 1)
            (admissions default (inMemory.run q (.start 0) ops).1)).length ≤ 1)
      ∧ admissions default (shared.run q (.start 0) faulty).1 = [0, 1000]
        ∧ (Ledger.within 1 (span 1)
            (admissions default (shared.run q (.start 0) faulty).1)).length ≤ 1 := by
  intro q ops faulty
  refine ⟨⟨by decide +kernel, ?_⟩, by decide +kernel, ?_⟩
  · exact (length_admitted_le q default 1).1 0 ops (by simp [q, ops, Spares, forgets])
      (by decide)
  · exact (length_admitted_le q default 1).2 0 faulty
      (by simp [faulty, Honest, Store.Fleet.Upkeep.Honest])

end TenantGate.Limit
