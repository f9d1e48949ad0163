/-
What a log holds, whatever its clock does.

# Admissions and what came after

The readings, limits and windows of a run are arbitrary: each operation
has its own, and the clock may go back. An `Admission` is an admitted
time together with the operations after it, so that it can be asked at
which of them the record was young.

A log drops records from the front and only while the front one is old.
So what is gone was old at some operation since, and what is left is a
tail of all admissions, in their order (`Retains`). The converse fails: a
young record in front shields the old ones behind it, and they stay.

If the clock never goes back there is nothing to shield. The records
stand in order, pruning is a filter, and the log holds exactly the
admissions that were young at every operation since, also if the windows
are of different lengths.
-/
import TenantGate.Proofs.Window.Tracks

namespace TenantGate.Window.Log

namespace Op

/-- The reading of the clock. -/
def now : Op → Nat
  | check now .. | remaining now .. | prune now _ => now

/-- The length of the window. -/
def span : Op → Nat
  | check _ _ seconds | remaining _ _ seconds => Window.span seconds
  | prune _ span => span

/-- Is a record of time `t` younger than the window? -/
def spares (t : Nat) (op : Op) : Bool := op.now - t < op.span

/-- The admission of an operation, if it admits. -/
def admitted : Op → Answer → List Nat
  | check now .., .verdict (.admitted _) => [now]
  | _, _ => []

theorem admitted_sublist (op : Op) (a : Answer) : (op.admitted a).Sublist [op.now] := by
  unfold admitted
  split
  next => exact List.Sublist.refl _
  next => exact List.nil_sublist _

end Op

/-- An admitted time, and the operations after it. -/
structure Admission where
  time : Nat
  since : List Op
deriving DecidableEq

namespace Admission

/-- Was it young at every operation since? -/
def fresh (a : Admission) : Bool := a.since.all (·.spares a.time)

/-- The same admission when there have been more operations. -/
def later (ops : List Op) (a : Admission) : Admission := { a with since := a.since ++ ops }

theorem fresh_later (op : Op) (a : Admission) :
    (a.later [op]).fresh = (a.fresh && op.spares a.time) := by
  unfold fresh later
  rw [List.all_append, List.all_cons, List.all_nil, Bool.and_true]

theorem exists_of_not_fresh {a : Admission} (h : a.fresh = false) :
    ∃ op ∈ a.since, op.span ≤ op.now - a.time := by
  unfold fresh at h
  rw [List.all_eq_false] at h
  obtain ⟨op, mem, old⟩ := h
  refine ⟨op, mem, ?_⟩
  unfold Op.spares at old
  simp only [decide_eq_true_eq] at old
  exact Nat.not_lt.1 old

end Admission

/-- The admissions of a run, in their order. -/
def admissions (log : Log) : List Op → List Admission
  | [] => []
  | op :: ops =>
      (op.admitted (log.step op).1).map (⟨·, ops⟩) ++ (log.step op).2.admissions ops

-- ================================================== a run and one more

theorem admissions_cons (log : Log) (op : Op) (ops : List Op) :
    log.admissions (op :: ops)
      = (op.admitted (log.step op).1).map (⟨·, ops⟩) ++ (log.step op).2.admissions ops := rfl

theorem run_append (log : Log) (ops more : List Op) :
    (log.run (ops ++ more)).2 = ((log.run ops).2.run more).2 := by
  induction ops generalizing log with
  | nil => rfl
  | cons op ops ih => exact ih (log.step op).2

theorem run_snoc (log : Log) (ops : List Op) (op : Op) :
    (log.run (ops ++ [op])).2 = ((log.run ops).2.step op).2 :=
  run_append log ops [op]

theorem admissions_append (log : Log) (ops more : List Op) :
    log.admissions (ops ++ more)
      = (log.admissions ops).map (·.later more) ++ (log.run ops).2.admissions more := by
  induction ops generalizing log with
  | nil => rfl
  | cons op ops ih =>
      rw [List.cons_append, admissions_cons, admissions_cons, ih, List.map_append, List.map_map,
        List.append_assoc]
      rfl

theorem admissions_snoc (log : Log) (ops : List Op) (op : Op) :
    log.admissions (ops ++ [op])
      = (log.admissions ops).map (·.later [op])
        ++ (op.admitted ((log.run ops).2.step op).1).map (⟨·, []⟩) := by
  rw [admissions_append]
  exact congrArg (_ ++ ·) (List.append_nil _)

/-- An operation prunes, and adds what it admits. -/
theorem records_step (op : Op) (log : Log) :
    (log.step op).2.records
      = (log.prune op.now op.span).records ++ op.admitted (log.step op).1 := by
  cases op with
  | check now limit seconds =>
      unfold step check
      dsimp only
      split
      next => rfl
      next => exact (List.append_nil _).symm
  | remaining now limit seconds => exact (List.append_nil _).symm
  | prune now span => exact (List.append_nil _).symm

/-- The admitted times are readings of the clock, in their order. -/
theorem times_sublist (log : Log) (ops : List Op) :
    ((log.admissions ops).map (·.time)).Sublist (ops.map Op.now) := by
  induction ops generalizing log with
  | nil => exact .slnil
  | cons op ops ih =>
      have first : ((op.admitted (log.step op).1).map fun t => (⟨t, ops⟩ : Admission).time).Sublist
          [op.now] := by
        rw [List.map_id']
        exact op.admitted_sublist (log.step op).1
      rw [admissions_cons, List.map_append, List.map_map]
      exact first.append (ih (log.step op).2)

-- ===================================================== what is retained

/-- The log holds the last of the admissions, and those before them were
not young at every operation since. -/
def Retains (given : List Admission) (log : Log) : Prop :=
  ∃ gone kept, given = gone ++ kept ∧ log.records = kept.map (·.time)
    ∧ ∀ a ∈ gone, a.fresh = false

namespace Retains

variable {given : List Admission} {log : Log}

theorem empty : Retains [] .empty := ⟨[], [], rfl, rfl, fun a ha => by cases ha⟩

/-- What pruning drops was old just now. -/
theorem prune (h : Retains given log) (op : Op) :
    Retains (given.map (·.later [op])) (log.prune op.now op.span) := by
  obtain ⟨gone, kept, rfl, records, stale⟩ := h
  obtain ⟨dropped, split, old⟩ := exists_append_prune op.now op.span log
  rw [records] at split
  obtain ⟨front, rest, rfl, rfl, left⟩ := List.map_eq_append_iff.1 split
  refine ⟨(gone ++ front).map (·.later [op]), rest.map (·.later [op]), ?_, ?_, fun a ha => ?_⟩
  · rw [← List.map_append, List.append_assoc]
  · rw [← left, List.map_map]
    rfl
  · obtain ⟨b, hb, rfl⟩ := List.mem_map.1 ha
    rw [Admission.fresh_later, Bool.and_eq_false_iff]
    rcases List.mem_append.1 hb with hb | hb
    · exact Or.inl (stale b hb)
    · have age := old b.time (List.mem_map.2 ⟨b, hb, rfl⟩)
      exact Or.inr (decide_eq_false (Nat.not_lt.2 age))

theorem step (h : Retains given log) (op : Op) :
    Retains (given.map (·.later [op]) ++ (op.admitted (log.step op).1).map (⟨·, []⟩))
      (log.step op).2 := by
  obtain ⟨gone, kept, split, records, stale⟩ := h.prune op
  refine ⟨gone, kept ++ (op.admitted (log.step op).1).map (⟨·, []⟩), ?_, ?_, stale⟩
  · rw [split, List.append_assoc]
  · rw [records_step, records, List.map_append, List.map_map]
    exact congrArg (_ ++ ·) (List.map_id' _).symm

theorem run (ops : List Op) :
    Retains (Log.empty.admissions ops) (Log.empty.run ops).2 := by
  induction ops using List.reverseRecOn with
  | nil => exact .empty
  | append_singleton ops op ih =>
      rw [admissions_snoc, run_snoc]
      exact ih.step op

theorem length_fresh_le (h : Retains given log) :
    (given.filter (·.fresh)).length ≤ log.size := by
  obtain ⟨gone, kept, rfl, records, stale⟩ := h
  have none_fresh : gone.filter (·.fresh) = [] :=
    List.filter_eq_nil_iff.2 fun a ha => Bool.not_eq_true _ ▸ stale a ha
  rw [size, records, List.length_map, List.filter_append, none_fresh, List.nil_append]
  exact List.length_filter_le _ _

end Retains

-- =================================================== while time goes on

/-- If the clock never goes back, the log holds the admissions that were
young at every operation since: what is pruned stands in order. -/
theorem records_run_of_ordered {ops : List Op} (ordered : (ops.map Op.now).Pairwise (· ≤ ·)) :
    (Log.empty.run ops).2.records
      = ((Log.empty.admissions ops).filter (·.fresh)).map (·.time) := by
  induction ops using List.reverseRecOn with
  | nil => rfl
  | append_singleton ops op ih =>
      rw [List.map_append, List.pairwise_append] at ordered
      have records := ih ordered.1
      have in_order : (Log.empty.run ops).2.records.Pairwise (· ≤ ·) := by
        rw [records]
        exact ordered.1.sublist ((List.filter_sublist.map _).trans (times_sublist _ ops))
      have pruned : ((Log.empty.run ops).2.prune op.now op.span).records
          = (((Log.empty.admissions ops).map (·.later [op])).filter (·.fresh)).map (·.time) := by
        have fresh : Admission.fresh ∘ Admission.later [op]
            = fun a : Admission => op.spares a.time && a.fresh :=
          funext fun a => (a.fresh_later op).trans (Bool.and_comm _ _)
        rw [records_prune_of_ordered in_order, records, List.filter_map, List.filter_filter,
          List.filter_map, List.map_map]
        exact congrArg (fun p => List.map _ (List.filter p _)) fresh.symm
      have new : ((op.admitted ((Log.empty.run ops).2.step op).1).map (⟨·, []⟩)).filter
          (fun a : Admission => a.fresh)
        = (op.admitted ((Log.empty.run ops).2.step op).1).map (⟨·, []⟩) :=
        List.filter_eq_self.2 fun a ha => by
          obtain ⟨t, -, rfl⟩ := List.mem_map.1 ha
          rfl
      rw [run_snoc, records_step, pruned, admissions_snoc, List.filter_append, List.map_append,
        new, List.map_map]
      exact congrArg (_ ++ ·) (List.map_id' _).symm

-- ============================================================ the theorem

/-- After any operations on a log, with any readings, limits and windows:

- it holds a tail of all admissions, in their order, and each of those
  before was as old as the window at some operation since;
- a check with a limit is refused if there are as many admissions that
  were young at every operation since, the check among them;
- and if the clock never went back, the log holds the admissions that
  were young at every operation since, and nothing else. -/
theorem holds_of_run (ops : List Op) :
    let log := (Log.empty.run ops).2
    let given := Log.empty.admissions ops
    (∃ n, log.records = (given.drop n).map (·.time)
        ∧ ∀ a ∈ given.take n, ∃ op ∈ a.since, op.span ≤ op.now - a.time)
      ∧ (∀ now limit seconds, (log.check now limit seconds).1.allowed = true →
          (given.filter fun a => (a.later [.check now limit seconds]).fresh).length < limit)
      ∧ ((ops.map Op.now).Pairwise (· ≤ ·) →
          log.records = (given.filter (·.fresh)).map (·.time)) := by
  intro log given
  have retains : Retains given log := .run ops
  refine ⟨?_, fun now limit seconds allowed => ?_, records_run_of_ordered⟩
  · obtain ⟨gone, kept, split, records, stale⟩ := retains
    refine ⟨gone.length, ?_, fun a ha => ?_⟩
    · rw [split, List.drop_left, records]
    · rw [split, List.take_left] at ha
      exact Admission.exists_of_not_fresh (stale a ha)
  · have room := allowed_check_iff.1 allowed
    have few := (retains.prune (.check now limit seconds)).length_fresh_le
    rw [List.filter_map, List.length_map] at few
    exact Nat.lt_of_le_of_lt few room

/-- A young record in front shields an old one: admitted at 5000, then at
0 and at 5500, with a second's window, the record of 0 is still there at
5900 although it was old at 5500, and counts against a limit of 4. And
with a clock that goes on, but with windows of one second, two seconds,
and one second. -/
theorem holds_of_run_shielded_and_ordered :
    let back : List Op := [.check 5000 9 1, .check 0 9 1, .check 5500 9 1]
    let on : List Op := [.check 0 9 1, .remaining 900 9 1, .check 1500 9 2, .check 2600 9 1]
    (Log.empty.run back).2.records = [5000, 0, 5500]
      ∧ (Log.empty.admissions back).map (·.fresh) = [true, false, true]
      ∧ ((Log.empty.run back).2.check 5900 4 1).1 = .admitted 0
      ∧ ((Log.empty.admissions back).filter
          fun a => (a.later [.check 5900 4 1]).fresh).length < 4
      ∧ (on.map Op.now).Pairwise (· ≤ ·)
      ∧ (Log.empty.run on).2.records = [2600]
      ∧ (Log.empty.run on).2.records
          = ((Log.empty.admissions on).filter (·.fresh)).map (·.time) := by
  intro back on
  have bound := (holds_of_run back).2.1 5900 4 1 (by decide)
  have kept := (holds_of_run on).2.2 (by decide)
  exact ⟨by decide, by decide, by decide, bound, by decide, by decide, kept⟩

end TenantGate.Window.Log
