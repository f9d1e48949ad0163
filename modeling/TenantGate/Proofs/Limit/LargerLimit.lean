/-
A larger limit refuses nobody whom a smaller one admits.

# Two runs

The same requests are put to a window twice, once under each limit. The
runs drift apart: the larger limit admits more, what it admits in addition
takes up room, and later that room is missing. So it is not plain that the
larger limit still has room whenever the smaller one has. For windows of
different lengths the like is not even true.

# The relation

`Exceeds more span l l'` says that the second ledger has the admissions of
the first and others besides, and that the others are sparse: no interval
of the length of the window holds more than `more` of them, the difference
of the limits. Where the smaller limit has room for a request, the others
that are live take up no more than the difference, so the larger one has
room too. And the larger one admits alone only if fewer than `more` of the
others are live, which is just what keeps them sparse
(`Ledger.sparse_append`).

A log tracks its ledger, and windows in memory are logs that read one
clock, so what `Exceeds.check` says of one request carries over to runs.
-/
import TenantGate.Proofs.Limit.Logs

namespace TenantGate.Window

variable {now limit more seconds : Nat}

namespace Ledger

/-- The second ledger has what the first has, and others; no interval of
length `span` holds more than `more` of the others. -/
def Exceeds (more span : Nat) (l l' : Ledger) : Prop :=
  ∃ others : Ledger, others.Sparse more span ∧ l'.times.Perm (l.times ++ others.times)

namespace Exceeds

variable {span : Nat} {l l' : Ledger}

theorem empty (more span : Nat) : Exceeds more span .empty .empty :=
  ⟨.empty, sparse_empty more span, .refl _⟩

/-- A request that the smaller limit admits is admitted under the larger
one, and after it the second ledger is ahead as before. -/
theorem check (h : Exceeds more span l l') (past : ∀ t ∈ l'.times, t ≤ now) :
    ((l.check now limit span seconds).1.allowed = true →
        (l'.check now (limit + more) span seconds).1.allowed = true)
      ∧ Exceeds more span (l.check now limit span seconds).2
          (l'.check now (limit + more) span seconds).2 := by
  obtain ⟨others, sparse, perm⟩ := h
  have count : (l'.live now span).length
      = (l.live now span).length + (others.live now span).length := by
    unfold live
    rw [(perm.filter _).length_eq, List.filter_append, List.length_append]
  have few : (others.live now span).length ≤ more :=
    length_live_le sparse fun t ht => past t (perm.mem_iff.2 (List.mem_append_right _ ht))
  by_cases room : (l.live now span).length < limit
  · -- the admission belongs to both
    have room' : (l'.live now span).length < limit + more := by omega
    rw [check_of_room room, check_of_room room']
    refine ⟨fun _ => rfl, others, sparse, (perm.append_right [now]).trans ?_⟩
    rw [List.append_assoc, List.append_assoc]
    exact List.perm_append_comm.append_left l.times
  · rw [check_of_full (Nat.not_lt.1 room)]
    refine ⟨nofun, ?_⟩
    by_cases room' : (l'.live now span).length < limit + more
    · -- it is one of the others
      rw [check_of_room room']
      refine ⟨⟨others.times ++ [now]⟩, sparse_append sparse (by omega), ?_⟩
      rw [← List.append_assoc]
      exact perm.append_right [now]
    · rw [check_of_full (Nat.not_lt.1 room')]
      exact ⟨others, sparse, perm⟩

end Exceeds

end Ledger

-- ============================================================ of one log

/-- Is the one admitted only if the other is? -/
def Verdict.Below (v v' : Verdict) : Prop := v.allowed = true → v'.allowed = true

namespace Log

/-- The verdicts on requests at the given times. -/
def verdicts (limit seconds : Nat) : List Nat → Log → List Verdict
  | [], _ => []
  | now :: times, log =>
      let (v, log) := log.check now limit seconds
      v :: log.verdicts limit seconds times

theorem verdicts_below {log log' : Log} {l l' : Ledger}
    (tracks : log.Tracks now (span seconds) l) (tracks' : log'.Tracks now (span seconds) l')
    (ahead : l.Exceeds more (span seconds) l') {times : List Nat}
    (ordered : (now :: times).Pairwise (· ≤ ·)) :
    List.Forall₂ Verdict.Below (log.verdicts limit seconds times)
      (log'.verdicts (limit + more) seconds times) := by
  induction times generalizing now log log' l l' with
  | nil => exact .nil
  | cons next times ih =>
      rw [List.pairwise_cons] at ordered
      have le : now ≤ next := ordered.1 next List.mem_cons_self
      obtain ⟨below, ahead⟩ := ahead.check (tracks'.later le).upTo.past
      rw [← (tracks.later le).allowed_check, ← (tracks'.later le).allowed_check] at below
      exact .cons below
        (ih ((tracks.later le).check limit) ((tracks'.later le).check (limit + more)) ahead
          ordered.2)

end Log

end TenantGate.Window

namespace TenantGate.Limit

open Window (Log Verdict maxCount span)

-- ==================================================== of windows in memory

/-- What a clock reads when it has gone on by each of the given times. -/
def readings (now : Nat) : List Nat → List Nat
  | [] => []
  | ms :: gaps => (now + ms) :: readings (now + ms) gaps

theorem readings_ordered (now : Nat) (gaps : List Nat) :
    (now :: readings now gaps).Pairwise (· ≤ ·) := by
  induction gaps generalizing now with
  | nil => exact List.pairwise_singleton _ _
  | cons ms gaps ih =>
      refine List.pairwise_cons.2 ⟨fun t ht => ?_, ih (now + ms)⟩
      rcases List.mem_cons.1 ht with rfl | ht
      · exact Nat.le_add_right now ms
      · exact Nat.le_trans (Nat.le_add_right now ms) ((List.pairwise_cons.1 (ih (now + ms))).1 t ht)

namespace Memory

/-- The verdicts on requests under a key, each of them after some
milliseconds. -/
def verdicts (key : Key) (limit seconds : Nat) : List Nat → Memory → List Verdict
  | [], _ => []
  | ms :: gaps, m =>
      let (v, m) := (m.advance ms).check key limit seconds
      v :: m.verdicts key limit seconds gaps

/-- They are those of the log of the key, at what the clock reads. -/
theorem verdicts_eq (key : Key) (limit seconds : Nat) {gaps : List Nat} {m : Memory}
    (fits : ∀ now ∈ readings m.now gaps, now ≤ maxCount) :
    m.verdicts key limit seconds gaps
      = (m.log key).verdicts limit seconds (readings m.now gaps) := by
  induction gaps generalizing m with
  | nil => rfl
  | cons ms gaps ih =>
      have moved : (m.advance ms).now = m.now + ms := now_advance (fits _ List.mem_cons_self)
      have now : ((m.advance ms).check key limit seconds).2.now = m.now + ms := moved
      have log : ((m.advance ms).check key limit seconds).2.log key
          = ((m.log key).check (m.now + ms) limit seconds).2 := by
        rw [log_check, if_pos rfl, moved]
        rfl
      have first : ((m.advance ms).check key limit seconds).1
          = ((m.log key).check (m.now + ms) limit seconds).1 := by
        rw [← moved]
        rfl
      unfold verdicts readings Log.verdicts
      dsimp only
      rw [ih (by rw [now]; exact fun t ht => fits t (List.mem_cons_of_mem _ ht)), now, log, first]

end Memory

/-- Of the same requests, from nothing on and with one length of window,
each that is admitted under a limit is admitted under any larger one: by
one log, at any times that do not go back, and by windows in memory,
whatever is kept under other keys. -/
theorem admitted_of_le {limit limit' : Nat} (seconds : Nat) (le : limit ≤ limit') :
    (∀ times : List Nat, times.Pairwise (· ≤ ·) →
        List.Forall₂ Verdict.Below (Log.empty.verdicts limit seconds times)
          (Log.empty.verdicts limit' seconds times))
      ∧ ∀ (m : Memory) (key : Key) (gaps : List Nat), m.log key = .empty →
          (∀ now ∈ readings m.now gaps, now ≤ maxCount) →
            List.Forall₂ Verdict.Below (m.verdicts key limit seconds gaps)
              (m.verdicts key limit' seconds gaps) := by
  obtain ⟨more, rfl⟩ := Nat.exists_eq_add_of_le le
  have below : ∀ (now : Nat) (times : List Nat), (now :: times).Pairwise (· ≤ ·) →
      List.Forall₂ Verdict.Below (Log.empty.verdicts limit seconds times)
        (Log.empty.verdicts (limit + more) seconds times) := fun now times ordered =>
    Log.verdicts_below (.empty now _) (.empty now _) (.empty more _) ordered
  constructor
  · intro times ordered
    exact below 0 times (List.pairwise_cons.2 ⟨fun t _ => Nat.zero_le t, ordered⟩)
  · intro m key gaps empty fits
    rw [Memory.verdicts_eq key limit seconds fits,
      Memory.verdicts_eq key (limit + more) seconds fits, empty]
    exact below m.now _ (readings_ordered m.now gaps)

/-- One request a second, and two: what the larger limit admits in addition
at 507 takes up room at 1407, but not at 1507, where it admits alone. -/
theorem admitted_of_le_one_and_two :
    let gaps := [0, 500, 500, 400, 100]
    let m := Memory.start 7
    readings m.now gaps = [7, 507, 1007, 1407, 1507]
      ∧ m.verdicts ⟨"k"⟩ 1 1 gaps = [.admitted 0, .denied 1, .admitted 0, .denied 1, .denied 1]
      ∧ m.verdicts ⟨"k"⟩ 2 1 gaps
        = [.admitted 1, .admitted 0, .admitted 0, .denied 1, .admitted 0]
      ∧ List.Forall₂ Verdict.Below (m.verdicts ⟨"k"⟩ 1 1 gaps) (m.verdicts ⟨"k"⟩ 2 1 gaps)
      ∧ List.Forall₂ Verdict.Below (Log.empty.verdicts 1 1 [7, 507, 1007, 1407, 1507])
          (Log.empty.verdicts 2 1 [7, 507, 1007, 1407, 1507]) := by
  intro gaps m
  refine ⟨by decide, by decide +kernel, by decide +kernel, ?_, ?_⟩
  · exact (admitted_of_le 1 (by decide)).2 m ⟨"k"⟩ gaps rfl (by decide)
  · exact (admitted_of_le 1 (by decide)).1 _ (by decide)

end TenantGate.Limit
