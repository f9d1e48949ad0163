/-
The scripts answer as the ledger of the key would.

# The relation

`SortedSets.Tracks` says that what is seen of each key tracks the ledger
of the key, for the length of the window as it is asked for, and that
each row is leased: it ends two windows after its last score. Because of
the lease a key never ends while a score of it counts, so its end is not
noticed (`Tracks.advance`): what is lost then has lapsed a window ago.

# The answers

The reply to `consume` is a verdict, written as three numbers (`replyOf`),
and the reply to `remaining` is the limit less what is live, which may be
negative. The verdict admits where the ledger does, for every window. The
wait of a refusal is the ledger's if a script can count up to the moment
at which a record of now would expire: if not, the numbers on the way to
it are rounded. What becomes of the numbers on the way to a caller is not
the script's matter.
-/
import Mathlib.Logic.Function.Basic
import TenantGate.Limit.Key
import TenantGate.Proofs.Store.Rows
import TenantGate.Proofs.Window.Tracks

namespace TenantGate.Store

open Function (update update_of_ne update_self)
open Limit (Key)
open Window (Ledger Log Verdict)

-- ================================================================ leases

/-- A row ends two windows after its last score. -/
def Leased (length : Nat) (set : ScoreSet) : Prop :=
  ∃ last, set.scores.getLast? = some last ∧ set.expireAt = some (last + 2 * length)

namespace Leased

variable {length : Nat} {set : ScoreSet}

theorem alive_iff {last now : Nat} (scores : set.scores.getLast? = some last)
    (end' : set.expireAt = some (last + 2 * length)) :
    set.alive now = true ↔ now < last + 2 * length := by
  rw [ScoreSet.alive_iff end']
  refine ⟨And.right, fun ahead => ⟨fun none_left => ?_, ahead⟩⟩
  rw [none_left] at scores
  cases scores

/-- The newest score of a row, from which its end is counted. -/
theorem newest (h : Leased length set) (ordered : set.scores.Pairwise (· ≤ ·)) :
    ∃ newest ∈ set.scores, (∀ t ∈ set.scores, t ≤ newest)
      ∧ set.expireAt = some (newest + 2 * length) := by
  obtain ⟨last, scores, end'⟩ := h
  obtain ⟨before, e⟩ := List.getLast?_eq_some_iff.1 scores
  rw [e] at ordered ⊢
  refine ⟨last, List.mem_append_right _ (List.mem_singleton_self last), fun t ht => ?_, end'⟩
  rcases List.mem_append.1 ht with ht | ht
  · exact (List.pairwise_append.1 ordered).2.2 t ht last (List.mem_singleton_self last)
  · exact Nat.le_of_eq (List.mem_singleton.1 ht)

/-- When a row has ended, each of its scores has been out of the window
for as long again. -/
theorem lapsed (h : Leased length set) {now : Nat} (ended : ¬ set.alive now = true)
    (ordered : set.scores.Pairwise (· ≤ ·)) : ∀ t ∈ set.scores, 2 * length ≤ now - t := by
  obtain ⟨newest, mem, most, end'⟩ := h.newest ordered
  have late : ¬ now < newest + 2 * length := fun ahead =>
    ended ((ScoreSet.alive_iff end').2 ⟨List.ne_nil_of_mem mem, ahead⟩)
  intro t ht
  have := most t ht
  omega

theorem alive_of_later (h : Leased length set) {now later : Nat} (le : now ≤ later)
    (alive : set.alive later = true) : set.alive now = true := by
  obtain ⟨last, scores, end'⟩ := h
  rw [alive_iff scores end'] at alive ⊢
  omega

/-- Removing the first scores of a row leaves its lease. -/
theorem filter (h : Leased length set) (ordered : set.scores.Pairwise (· ≤ ·))
    {bound : Int} (some_left : set.scores.filter (fun t : Nat => bound < (t : Int)) ≠ []) :
    Leased length { set with scores := set.scores.filter fun t : Nat => bound < (t : Int) } := by
  obtain ⟨last, scores, end'⟩ := h
  refine ⟨last, ?_, end'⟩
  obtain ⟨before, e⟩ := List.getLast?_eq_some_iff.1 scores
  have kept : bound < (last : Int) := by
    obtain ⟨t, ht⟩ := List.exists_mem_of_ne_nil _ some_left
    obtain ⟨mem, above⟩ := List.mem_filter.1 ht
    rw [decide_eq_true_eq] at above
    rw [e] at mem ordered
    rcases List.mem_append.1 mem with mem | mem
    · have := (List.pairwise_append.1 ordered).2.2 t mem last (List.mem_singleton.2 rfl)
      omega
    · rw [List.mem_singleton] at mem
      omega
  show (set.scores.filter _).getLast? = some last
  rw [e, List.filter_append, List.filter_cons_of_pos (by simpa using kept), List.filter_nil]
  exact List.getLast?_concat

end Leased

-- ========================================================== the relation

theorem SortedSets.now_expel (key : String) (seconds : Nat) (s : SortedSets) :
    (Script.expel key seconds s).now = s.now := now_removeUpTo _ _ _

/-- What is seen of each key tracks its ledger, for windows of `seconds`,
and each row is leased. -/
structure SortedSets.Tracks (seconds : Nat) (ledgers : Key → Ledger) (s : SortedSets) :
    Prop where
  logs : ∀ key : Key, Log.Tracks s.now (seconds * 1000) (ledgers key) ⟨s.scores key.text⟩
  leases : ∀ name set, s.row? name = some set → Leased (seconds * 1000) set

namespace SortedSets.Tracks

variable {seconds : Nat} {ledgers : Key → Ledger} {s : SortedSets}

theorem start (seconds micros : Nat) :
    Tracks seconds (fun _ => .empty) (SortedSets.start micros) :=
  ⟨fun _ => .empty _ _, fun _ _ row => by cases row⟩

/-- While time passes a key shows the same, until it is over; by then all
that it showed is two windows old. -/
theorem scores_advance (h : Tracks seconds ledgers s) (micros : Nat) (name : String) :
    (s.advance micros).scores name = s.scores name
      ∨ (s.advance micros).scores name = []
        ∧ ∀ t ∈ s.scores name, t + 2 * (seconds * 1000) ≤ (s.advance micros).now := by
  have le : s.now ≤ (s.advance micros).now :=
    Nat.div_le_div_right (Nat.le_add_right s.micros micros)
  cases row : s.row? name with
  | none =>
      refine .inl ?_
      rw [scores_of_no_row row]
      exact scores_of_no_row (s := s.advance micros) row
  | some set =>
      have leased := h.leases _ _ row
      rw [scores_of_row (s := s.advance micros) row]
      by_cases alive : set.alive (s.advance micros).now = true
      · refine .inl ?_
        rw [if_pos alive, scores_of_row row, if_pos (leased.alive_of_later le alive)]
      · refine .inr ⟨if_neg alive, fun t ht => ?_⟩
        have past := (h.logs ⟨name⟩).upTo.past t ((h.logs ⟨name⟩).subset ht)
        have ordered := (h.logs ⟨name⟩).ordered
        rw [scores_of_row row] at ht ordered
        split at ht
        next seen =>
          rw [if_pos seen] at ordered
          have := leased.lapsed alive ordered t ht
          omega
        next => cases ht

/-- Nobody notices the end of a key: nothing of it was young any more. -/
theorem advance (h : Tracks seconds ledgers s) (micros : Nat) :
    Tracks seconds ledgers (s.advance micros) := by
  have le : s.now ≤ (s.advance micros).now :=
    Nat.div_le_div_right (Nat.le_add_right s.micros micros)
  refine ⟨fun key => ?_, h.leases⟩
  have later := (h.logs key).later le
  rcases h.scores_advance micros key.text with same | ⟨lapsed, old⟩
  · rw [same]
    exact later
  · rw [lapsed]
    refine later.lapse fun t ht => ?_
    have := old t ht
    omega

/-- What `expel` leaves of a key is what pruning leaves of a log. -/
theorem scores_expel (h : Tracks seconds ledgers s) (key : Key) :
    (Script.expel key.text seconds s).scores key.text
      = ((⟨s.scores key.text⟩ : Log).prune s.now (seconds * 1000)).records := by
  rw [Log.records_prune_of_ordered (h.logs key).ordered]
  refine (scores_removeUpTo _ _ _).trans (List.filter_congr fun t ht => ?_)
  have past := (h.logs key).upTo.past t ((h.logs key).subset ht)
  rw [Bool.eq_iff_iff, decide_eq_true_eq, decide_eq_true_eq]
  omega

/-- Dropping what the window has left behind keeps track. -/
theorem expel (h : Tracks seconds ledgers s) (key : Key) :
    Tracks seconds ledgers (Script.expel key.text seconds s) := by
  constructor
  · intro other
    rw [now_expel]
    by_cases e : other = key
    · rw [e, h.scores_expel key]
      exact (h.logs key).prune (Nat.le_refl _)
    · have text : other.text ≠ key.text := fun t => e (congrArg Key.mk t)
      have row : (Script.expel key.text seconds s).row? other.text = s.row? other.text :=
        (row_removeUpTo _ _ _ _).trans (if_neg text)
      rw [scores_congr row (now_expel _ _ _)]
      exact h.logs other
  · intro name set row
    rw [Script.expel, row_removeUpTo] at row
    by_cases e : name = key.text
    · rw [if_pos e] at row
      split at row
      next => cases row
      next some_left =>
        obtain ⟨old, old_row, rfl⟩ := Option.map_eq_some_iff.1 row
        have ordered := (h.logs key).ordered
        rw [scores_of_row old_row] at some_left ordered
        by_cases seen : old.alive s.now = true
        · rw [if_pos seen] at some_left ordered
          exact (h.leases _ _ old_row).filter ordered some_left
        · rw [if_neg seen] at some_left
          exact absurd rfl some_left
    · rw [if_neg e] at row
      exact h.leases _ _ row

/-- What is recorded on both sides is tracked. A window of no length
counts nothing, and its key ends at once. -/
theorem record (h : Tracks seconds ledgers s) (key : Key) :
    Tracks seconds (update ledgers key ⟨(ledgers key).times ++ [s.now]⟩)
      (s.record key.text s.now (seconds * 2)) := by
  have past : ∀ t ∈ s.scores key.text, t ≤ s.now := fun t ht =>
    (h.logs key).upTo.past t ((h.logs key).subset ht)
  constructor
  · intro other
    rw [now_record]
    by_cases e : other = key
    · rw [e, update_self, scores_record past]
      split
      next at_once =>
        refine (h.logs key).append.lapse fun t _ => ?_
        omega
      next => exact (h.logs key).append
    · have text : other.text ≠ key.text := fun t => e (congrArg Key.mk t)
      rw [update_of_ne e,
        scores_congr ((row_record _ _ _ _ _).trans (if_neg text)) (now_record _ _ _ _)]
      exact h.logs other
  · intro name set row
    rw [row_record] at row
    by_cases e : name = key.text
    · rw [if_pos e] at row
      split at row
      next => cases row
      next =>
        rw [Option.some.injEq] at row
        subst row
        refine ⟨s.now, ?_, congrArg some (by omega)⟩
        rw [ScoreSet.insert_of_le past]
        exact List.getLast?_concat
    · rw [if_neg e] at row
      exact h.leases _ _ row

-- =========================================================== the scripts

/-- The wait of the script is the ledger's, as far as a script can count. -/
theorem wait_live (h : Tracks seconds ledgers s) (key : Key)
    (exact : s.now + seconds * 1000 ≤ Double.exact) :
    Script.wait s.now seconds ((ledgers key).live s.now (seconds * 1000))
      = (ledgers key).wait s.now (seconds * 1000) seconds := by
  unfold Script.wait Ledger.wait
  rw [(h.logs key).upTo.min?_live, Double.round_of_le (by omega)]
  cases live : (ledgers key).live s.now (seconds * 1000) with
  | nil => rfl
  | cons oldest rest =>
      have young : oldest ∈ (ledgers key).live s.now (seconds * 1000) :=
        live ▸ List.mem_cons_self
      have past := (h.logs key).upTo.past oldest (List.mem_of_mem_filter young)
      have expiry : oldest + seconds * 1000 ≤ Double.exact := by omega
      have left : oldest + seconds * 1000 - s.now ≤ Double.exact := by omega
      dsimp only [List.head?]
      rw [Double.round_of_le (n := seconds * 1000) (by omega), Double.round_of_le expiry,
        Double.round_of_le left, Double.ceilDiv_of_le left, Nat.ceilDiv_eq_add_pred_div,
        Nat.max_comm]
      rfl

end SortedSets.Tracks

theorem now_consume (key : String) (limit seconds : Nat) (s : SortedSets) :
    (Script.consume key limit seconds s).2.now = s.now := by
  unfold Script.consume
  dsimp only
  split
  next => exact (SortedSets.now_record _ _ _ _).trans (SortedSets.now_expel _ _ _)
  next => exact SortedSets.now_expel _ _ _

/-- A verdict as the three numbers of a script. -/
def replyOf : Verdict → Reply
  | .admitted left => .array [.int 1, .int left, .int 0]
  | .denied wait => .array [.int 0, .int 0, .int wait]

namespace SortedSets.Tracks

variable {seconds : Nat} {ledgers : Key → Ledger} {s : SortedSets}

/-- The script admits and records where the ledger does, and refuses with
the ledger's wait as far as it can count. -/
theorem consume (h : Tracks seconds ledgers s) (key : Key) (limit : Nat) :
    let check := (ledgers key).check s.now limit (seconds * 1000) seconds
    (∃ v, (Script.consume key.text limit seconds s).1 = replyOf v
        ∧ v.allowed = check.1.allowed
        ∧ (s.now + seconds * 1000 ≤ Double.exact → v = check.1))
      ∧ Tracks seconds (update ledgers key check.2)
          (Script.consume key.text limit seconds s).2 := by
  intro check
  have kept := h.expel key
  have now := now_expel key.text seconds s
  have scores : (Script.expel key.text seconds s).scores key.text
      = (ledgers key).live s.now (seconds * 1000) := by
    rw [h.scores_expel key, (h.logs key).records_prune]
  unfold Script.consume
  dsimp only
  rw [scores, now]
  rcases Nat.lt_or_ge ((ledgers key).live s.now (seconds * 1000)).length limit with room | full
  · have checked : check = _ := Ledger.check_of_room room
    have left : (limit : Int) - ((ledgers key).live s.now (seconds * 1000)).length - 1
        = (limit - ((ledgers key).live s.now (seconds * 1000)).length - 1 : Nat) := by
      omega
    have recorded := kept.record key
    rw [now] at recorded
    rw [if_pos room, checked, left]
    exact ⟨⟨_, rfl, rfl, fun _ => rfl⟩, recorded⟩
  · have checked : check = _ := Ledger.check_of_full full
    rw [if_neg (Nat.not_lt.2 full), checked]
    refine ⟨⟨.denied _, rfl, rfl, fun exact => ?_⟩, ?_⟩
    · exact congrArg Verdict.denied (h.wait_live key exact)
    · rw [Function.update_eq_self]
      exact kept

theorem remaining (h : Tracks seconds ledgers s) (key : Key) (limit : Nat) :
    (Script.remaining key.text limit seconds s).1
        = .int ((limit : Int) - ((ledgers key).live s.now (seconds * 1000)).length)
      ∧ Tracks seconds ledgers (Script.remaining key.text limit seconds s).2 := by
  refine ⟨?_, h.expel key⟩
  show Reply.int _ = Reply.int _
  rw [h.scores_expel key, (h.logs key).records_prune]

end SortedSets.Tracks

end TenantGate.Store
