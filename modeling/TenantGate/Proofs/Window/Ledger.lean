/-
The ledger of a key: every admission there ever was, none forgotten.

A log drops what has expired, at every check, count, and purge, and only
from its front. A ledger drops nothing and looks at the age of each
admission when it is asked: it is the rule that a log has to follow.

# The bound for every window

`Sparse` says that no half-open interval of the length of the window
holds more than `limit` admissions, wherever the interval starts. A check
looks at one interval only, the one that ends now. That is enough: an
earlier interval that reaches up to now holds nothing that is not still
live (`sparse_append`), and one that ended before now does not change.
So the bound for all intervals is kept by admissions alone, and
`length_live_le` gives the bound on what is live back.
-/
import Mathlib.Algebra.Order.Floor.Div
import Mathlib.GroupTheory.GroupAction.Ring
import TenantGate.Window.Log

namespace TenantGate.Window

/-- The admissions of one key, oldest first. -/
structure Ledger where
  times : List Nat
deriving DecidableEq, Inhabited

namespace Ledger

def empty : Ledger := ⟨[]⟩

/-- The admissions that count at `now`: those younger than the span. -/
def live (now span : Nat) (l : Ledger) : List Nat :=
  l.times.filter fun t => now - t < span

/-- The wait that a refusal names: whole seconds, rounded up and at least
one, until the oldest live admission is `span` old, or the whole window
if none is live. -/
def wait (now span seconds : Nat) (l : Ledger) : Nat :=
  match (l.live now span).min? with
  | none => max seconds 1
  | some oldest => max 1 ((oldest + span - now) ⌈/⌉ 1000)

/-- Admits and records a request if fewer than `limit` are live. -/
def check (now limit span seconds : Nat) (l : Ledger) : Verdict × Ledger :=
  let count := (l.live now span).length
  if count < limit then (.admitted (limit - count - 1), ⟨l.times ++ [now]⟩)
  else (.denied (l.wait now span seconds), l)

/-- For how many more requests there is room. -/
def remaining (now limit span : Nat) (l : Ledger) : Nat :=
  limit - (l.live now span).length

/-- The admissions in the half-open interval of length `span` from `a`. -/
def within (a span : Nat) (times : List Nat) : List Nat :=
  times.filter fun t => a ≤ t ∧ t < a + span

/-- No interval of length `span` holds more than `limit` admissions. -/
def Sparse (limit span : Nat) (l : Ledger) : Prop :=
  ∀ a, (within a span l.times).length ≤ limit

/-- The admissions stand in order, and none is later than `now`. -/
structure UpTo (now : Nat) (l : Ledger) : Prop where
  ordered : l.times.Pairwise (· ≤ ·)
  past : ∀ t ∈ l.times, t ≤ now

-- ============================================================= a check

section

variable {now limit span seconds : Nat} {l : Ledger}

theorem check_of_room (room : (l.live now span).length < limit) :
    l.check now limit span seconds
      = (.admitted (limit - (l.live now span).length - 1), ⟨l.times ++ [now]⟩) :=
  if_pos room

theorem check_of_full (full : limit ≤ (l.live now span).length) :
    l.check now limit span seconds = (.denied (l.wait now span seconds), l) :=
  if_neg (Nat.not_lt.2 full)

theorem allowed_check_iff_room :
    (l.check now limit span seconds).1.allowed = true
      ↔ (l.live now span).length < limit := by
  constructor
  · intro allowed
    by_contra full
    rw [check_of_full (Nat.not_lt.1 full)] at allowed
    cases allowed
  · intro room
    rw [check_of_room room]
    rfl

theorem check_of_allowed (h : (l.check now limit span seconds).1.allowed = true) :
    l.check now limit span seconds
      = (.admitted (limit - (l.live now span).length - 1), ⟨l.times ++ [now]⟩) :=
  check_of_room (allowed_check_iff_room.1 h)

theorem check_of_not_allowed (h : (l.check now limit span seconds).1.allowed = false) :
    l.check now limit span seconds = (.denied (l.wait now span seconds), l) := by
  apply check_of_full
  rw [← Bool.not_eq_true, allowed_check_iff_room] at h
  exact Nat.not_lt.1 h

end

-- ================================================= what is live, later

/-- What is live later is what is still young of what is live now. -/
theorem live_of_le {now later span : Nat} (h : now ≤ later) (l : Ledger) :
    l.live later span = (l.live now span).filter fun t => later - t < span := by
  unfold live
  rw [List.filter_filter]
  refine List.filter_congr fun t _ => ?_
  rw [Bool.eq_iff_iff]
  simp only [decide_eq_true_eq, Bool.and_eq_true]
  omega

namespace UpTo

theorem empty (now : Nat) : UpTo now Ledger.empty :=
  ⟨List.Pairwise.nil, fun t ht => by cases ht⟩

theorem later {now later : Nat} {l : Ledger} (h : l.UpTo now) (le : now ≤ later) :
    l.UpTo later :=
  ⟨h.ordered, fun t ht => Nat.le_trans (h.past t ht) le⟩

theorem append {now : Nat} {l : Ledger} (h : l.UpTo now) :
    UpTo now ⟨l.times ++ [now]⟩ := by
  refine ⟨?_, fun t ht => ?_⟩
  · rw [List.pairwise_append]
    refine ⟨h.ordered, List.pairwise_singleton _ _, fun t ht u hu => ?_⟩
    rw [List.mem_singleton] at hu
    rw [hu]
    exact h.past t ht
  · rcases List.mem_append.1 ht with ht | ht
    · exact h.past t ht
    · rw [List.mem_singleton] at ht
      rw [ht]

/-- The oldest of what is live comes first. -/
theorem min?_live {now span : Nat} {l : Ledger} (h : l.UpTo now) :
    (l.live now span).min? = (l.live now span).head? := by
  apply List.min?_eq_head?
  have ordered : (l.live now span).Pairwise (· ≤ ·) := h.ordered.sublist List.filter_sublist
  exact ordered.imp fun le => Nat.min_eq_left le

end UpTo

-- ================================================ the bound, everywhere

theorem sparse_empty (limit span : Nat) : Sparse limit span empty :=
  fun _ => Nat.zero_le _

/-- What lies in an interval that reaches up to now is still live. -/
theorem length_within_le_live {a now span : Nat} {l : Ledger} (reach : now < a + span) :
    (within a span l.times).length ≤ (l.live now span).length := by
  refine (List.monotone_filter_right l.times fun t ht => ?_).length_le
  simp only [decide_eq_true_eq] at ht ⊢
  omega

/-- One more admission keeps the bound if there was room for it. -/
theorem sparse_append {limit now span : Nat} {l : Ledger} (h : l.Sparse limit span)
    (room : (l.live now span).length < limit) :
    Sparse limit span ⟨l.times ++ [now]⟩ := by
  intro a
  show ((l.times ++ [now]).filter _).length ≤ limit
  rw [List.filter_append, List.length_append]
  by_cases inside : a ≤ now ∧ now < a + span
  · have old : (l.times.filter fun t => a ≤ t ∧ t < a + span).length
        ≤ (l.live now span).length := length_within_le_live inside.2
    have one := List.length_filter_le (fun t => decide (a ≤ t ∧ t < a + span)) [now]
    rw [List.length_singleton] at one
    omega
  · rw [List.filter_cons_of_neg (by simpa using inside)]
    exact h a

/-- A check keeps the bound of any limit that is not below its own. -/
theorem Sparse.check {limit most now span seconds : Nat} {l : Ledger}
    (h : l.Sparse most span) (le : limit ≤ most) :
    (l.check now limit span seconds).2.Sparse most span := by
  cases hv : (l.check now limit span seconds).1.allowed with
  | false =>
      rw [check_of_not_allowed hv]
      exact h
  | true =>
      have room := allowed_check_iff_room.1 hv
      rw [check_of_room room]
      exact sparse_append h (Nat.lt_of_lt_of_le room le)

/-- A bound for every interval bounds what is live. -/
theorem length_live_le {limit now span : Nat} {l : Ledger} (h : l.Sparse limit span)
    (past : ∀ t ∈ l.times, t ≤ now) : (l.live now span).length ≤ limit := by
  -- the interval that ends with the present millisecond
  refine Nat.le_trans ?_ (h (now + 1 - span))
  unfold live within
  rw [← List.countP_eq_length_filter, ← List.countP_eq_length_filter]
  refine List.countP_mono_left fun t ht young => ?_
  have := past t ht
  simp only [decide_eq_true_eq] at young ⊢
  omega

end Ledger

end TenantGate.Window
