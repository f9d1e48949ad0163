/-
A log answers as the ledger of its key would.

# The relation

`Tracks now span ledger log` says that the log is what is left of the
ledger when some of its first admissions are gone, all of them `span` old
or older at `now`, where the ledger stands in order and ends by `now`.
How much is gone is left open: a log that was just pruned tracks, and so
does one that nobody has asked for a while, or one that was dropped
altogether because nothing in it counted any more (`lapse`).

Time passing keeps the relation (`later`), and so do prunings with this
span or a longer one (`prune`) and checks (`check`), which record on both
sides or on neither. In every such state the log, when pruned, holds
exactly what is live in the ledger (`records_prune`), so a count gets the
ledger's answer, and a check is admitted where the ledger admits.

# The sum

A refusal also names a wait. The log finds it by way of the moment at
which its oldest record expires (`sum?`), and it is the ledger's wait if
64 bits hold that moment (`verdict_check`).
-/
import Mathlib.Data.List.TakeWhile
import TenantGate.Proofs.Window.Ledger

namespace TenantGate.Window

variable {now span seconds : Nat} {ledger : Ledger} {log : Log}

namespace Log

/-- Pruning an ordered log keeps exactly the records that are younger
than the span, in their order. -/
theorem records_prune_of_ordered (ordered : log.records.Pairwise (· ≤ ·)) :
    (log.prune now span).records = log.records.filter fun t => now - t < span := by
  obtain ⟨records⟩ := log
  simp only [prune] at ordered ⊢
  induction records with
  | nil => rfl
  | cons r rest ih =>
      rw [List.pairwise_cons] at ordered
      by_cases old : span ≤ now - r
      · rw [List.dropWhile_cons_of_pos (by simpa using old), ih ordered.2,
          List.filter_cons_of_neg (by simpa using old)]
      · rw [List.dropWhile_cons_of_neg (by simpa using old)]
        refine (List.filter_eq_self.2 fun t ht => ?_).symm
        have : r ≤ t := by
          rcases List.mem_cons.1 ht with rfl | ht
          · exact Nat.le_refl _
          · exact ordered.1 t ht
        simp only [decide_eq_true_eq]
        omega

/-- What pruning drops was in front, and is old. -/
theorem exists_append_prune (now span : Nat) (log : Log) :
    ∃ gone, log.records = gone ++ (log.prune now span).records ∧ ∀ t ∈ gone, span ≤ now - t := by
  refine ⟨log.records.takeWhile fun t => span ≤ now - t,
    List.takeWhile_append_dropWhile.symm, fun t ht => ?_⟩
  have old := List.mem_takeWhile_imp ht
  simpa only [decide_eq_true_eq] using old

/-- A check makes no difference between logs that hold the same once they
are pruned. -/
theorem check_congr {limit : Nat} {log' : Log}
    (same : log.prune now (Window.span seconds) = log'.prune now (Window.span seconds)) :
    log.check now limit seconds = log'.check now limit seconds := by
  unfold check
  rw [same]

/-- The moment at which the oldest record that counts expires, which a
check works out if it refuses. -/
def sum? (now limit seconds : Nat) (log : Log) : Option Nat :=
  let kept := log.prune now (Window.span seconds)
  if kept.size < limit then none else kept.records.head?.map (· + Window.span seconds)

theorem sum?_of_full {limit : Nat}
    (full : ¬ (log.prune now (Window.span seconds)).size < limit) :
    log.sum? now limit seconds
      = (log.prune now (Window.span seconds)).records.head?.map (· + Window.span seconds) :=
  if_neg full

/-- The log holds the ledger's admissions but for some of the first ones,
which have expired by `now`. -/
structure Tracks (now span : Nat) (ledger : Ledger) (log : Log) : Prop where
  upTo : ledger.UpTo now
  split : ∃ gone, ledger.times = gone ++ log.records ∧ ∀ t ∈ gone, span ≤ now - t

namespace Tracks

theorem empty (now span : Nat) : Tracks now span .empty .empty :=
  ⟨.empty now, [], rfl, fun t ht => by cases ht⟩

theorem ordered (h : Tracks now span ledger log) : log.records.Pairwise (· ≤ ·) := by
  obtain ⟨gone, e, -⟩ := h.split
  have := h.upTo.ordered
  rw [e, List.pairwise_append] at this
  exact this.2.1

theorem subset (h : Tracks now span ledger log) {t : Nat} (ht : t ∈ log.records) :
    t ∈ ledger.times := by
  obtain ⟨gone, e, -⟩ := h.split
  rw [e]
  exact List.mem_append_right gone ht

/-- What has expired stays so while time passes. -/
theorem later (h : Tracks now span ledger log) {now' : Nat} (le : now ≤ now') :
    Tracks now' span ledger log := by
  obtain ⟨gone, e, old⟩ := h.split
  refine ⟨h.upTo.later le, gone, e, fun t ht => ?_⟩
  have := old t ht
  omega

/-- A log none of whose records counts any more may go. -/
theorem lapse (h : Tracks now span ledger log) (old : ∀ t ∈ log.records, span ≤ now - t) :
    Tracks now span ledger .empty := by
  obtain ⟨gone, e, gone_old⟩ := h.split
  refine ⟨h.upTo, gone ++ log.records, by rw [e]; exact (List.append_nil _).symm,
    fun t ht => ?_⟩
  rcases List.mem_append.1 ht with ht | ht
  · exact gone_old t ht
  · exact old t ht

/-- A pruned log holds exactly what is live. -/
theorem records_prune (h : Tracks now span ledger log) :
    (log.prune now span).records = ledger.live now span := by
  obtain ⟨gone, e, old⟩ := h.split
  have none_live : gone.filter (fun t => now - t < span) = [] := by
    rw [List.filter_eq_nil_iff]
    intro t ht
    have := old t ht
    simp only [decide_eq_true_eq]
    omega
  rw [records_prune_of_ordered h.ordered, Ledger.live, e, List.filter_append, none_live,
    List.nil_append]

/-- Pruning with the span or a longer one keeps track. -/
theorem prune (h : Tracks now span ledger log) {length : Nat} (le : span ≤ length) :
    Tracks now span ledger (log.prune now length) := by
  obtain ⟨gone, e, old⟩ := h.split
  obtain ⟨more, split, more_old⟩ := exists_append_prune now length log
  refine ⟨h.upTo, gone ++ more, ?_, fun t ht => ?_⟩
  · rw [e, split, List.append_assoc]
  · rcases List.mem_append.1 ht with ht | ht
    · exact old t ht
    · exact Nat.le_trans le (more_old t ht)

theorem append (h : Tracks now span ledger log) :
    Tracks now span ⟨ledger.times ++ [now]⟩ ⟨log.records ++ [now]⟩ := by
  obtain ⟨gone, e, old⟩ := h.split
  exact ⟨h.upTo.append, gone, by rw [e, List.append_assoc], old⟩

-- ============================================================ answers

theorem size_prune (h : Tracks now span ledger log) :
    (log.prune now span).size = (ledger.live now span).length := by
  rw [size, h.records_prune]

/-- A check admits where the ledger does. -/
theorem allowed_check (h : Tracks now (Window.span seconds) ledger log) (limit : Nat) :
    (log.check now limit seconds).1.allowed
      = (ledger.check now limit (Window.span seconds) seconds).1.allowed := by
  rw [Bool.eq_iff_iff, allowed_check_iff, Ledger.allowed_check_iff_room, h.size_prune]

/-- A check records on both sides or on neither. -/
theorem check (h : Tracks now (Window.span seconds) ledger log) (limit : Nat) :
    Tracks now (Window.span seconds)
      (ledger.check now limit (Window.span seconds) seconds).2
      (log.check now limit seconds).2 := by
  have kept := h.prune (Nat.le_refl (Window.span seconds))
  unfold Log.check Ledger.check
  dsimp only
  rw [h.size_prune]
  split
  next => exact kept.append
  next => exact kept

/-- A record of now would not expire earlier than any that is held. -/
theorem sum_le (h : Tracks now (Window.span seconds) ledger log) {limit sum : Nat}
    (mem : sum ∈ log.sum? now limit seconds) : sum ≤ now + Window.span seconds := by
  unfold sum? at mem
  dsimp only at mem
  split at mem
  next => cases mem
  next =>
    obtain ⟨oldest, first, rfl⟩ := Option.map_eq_some_iff.1 mem
    have held := (prune_suffix _ _ _).subset (List.mem_of_mem_head? first)
    have := h.upTo.past oldest (h.subset held)
    omega

/-- A full log names the ledger's wait, if the sum fits. -/
theorem wait_prune (h : Tracks now (Window.span seconds) ledger log)
    (fits : ∀ oldest ∈ (log.prune now (Window.span seconds)).records.head?,
      oldest + Window.span seconds ≤ maxCount) :
    (log.prune now (Window.span seconds)).wait now seconds
      = ledger.wait now (Window.span seconds) seconds := by
  unfold Log.wait Ledger.wait
  rw [h.records_prune] at fits ⊢
  rw [h.upTo.min?_live]
  cases live : ledger.live now (Window.span seconds) with
  | nil => rfl
  | cons oldest rest =>
      rw [live] at fits
      show retryAfter _ _ _ = max 1 _
      rw [retryAfter_of_fits (fits oldest rfl), Nat.ceilDiv_eq_add_pred_div, Nat.max_comm]
      rfl

/-- A check gets the ledger's answer, if the sum fits. -/
theorem verdict_check (h : Tracks now (Window.span seconds) ledger log) {limit : Nat}
    (fits : ∀ sum ∈ log.sum? now limit seconds, sum ≤ maxCount) :
    (log.check now limit seconds).1
      = (ledger.check now limit (Window.span seconds) seconds).1 := by
  unfold Log.check Ledger.check
  dsimp only
  rw [← h.size_prune]
  split
  next => rfl
  next full =>
    rw [sum?_of_full full] at fits
    have oldest : ∀ oldest ∈ (log.prune now (Window.span seconds)).records.head?,
        oldest + Window.span seconds ≤ maxCount :=
      fun oldest first => fits _ (Option.mem_map_of_mem _ first)
    show Verdict.denied (max _ 1) = Verdict.denied _
    rw [Nat.max_eq_left (one_le_wait _ _ _), h.wait_prune oldest]

theorem remaining (h : Tracks now (Window.span seconds) ledger log) (limit : Nat) :
    (log.remaining now limit seconds).1
      = ledger.remaining now limit (Window.span seconds) := by
  show limit - _ = limit - _
  rw [h.size_prune]

end Tracks

end Log

end TenantGate.Window
