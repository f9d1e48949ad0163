/-
Which keys have a row, whatever the clock shows.

# Any clock

Windows in memory read a clock that they know nothing of. Here it may show
anything: between two operations it moves on, starts again after its last
value, or shows some other time, later or earlier (`Memory.Op`). So the
records of a log need not stand in order, and one that is old may wait
behind one that is young.

# The rows

A row comes with a check of its key, also when the check denies. It goes
when everything is forgotten, or with a purge that finds all records of the
key old, wherever they stand, and in particular if there is none. Nothing
else moves a row: a count may empty a log, but its key stays, and a count of
an unknown key makes none.

`Op.removes` says this of one operation in one state, and `mem_keys_step` is
what a step does to the keys. `Held` looks back over a run, to the last check
of a key and what came after it; `tracked_iff_held` says that the keys with a
row are the ones that are held.
-/
import Mathlib.Data.List.Induction
import TenantGate.Proofs.Limit.Logs

namespace TenantGate.Limit

open Window (Log Verdict span)

namespace Memory

-- ================================================================ runs

/-- What is asked of windows in memory, and what becomes of their clock. -/
inductive Op where
  | check (key : Key) (limit seconds : Nat)
  | peek (key : Key) (limit seconds : Nat)
  | purge (seconds : Nat)
  | close
  | reset
  /-- The clock moves on, and starts again after its last value. -/
  | advance (ms : Nat)
  /-- The clock shows another time, later or earlier. -/
  | turn (now : Nat)
deriving DecidableEq

/-- What is answered to it. -/
inductive Answer where
  | verdict (v : Verdict)
  | count (n : Nat)
  | done
deriving DecidableEq

/-- One operation. -/
def step (m : Memory) : Op → Answer × Memory
  | .check key limit seconds =>
      let (v, m) := m.check key limit seconds
      (.verdict v, m)
  | .peek key limit seconds =>
      let (n, m) := m.peek key limit seconds
      (.count n, m)
  | .purge seconds =>
      let (n, m) := m.purge seconds
      (.count n, m)
  | .close => (.done, m.clear)
  | .reset => (.done, m.clear)
  | .advance ms => (.done, m.advance ms)
  | .turn now => (.done, { m with now })

/-- The windows after a run. -/
def run (m : Memory) : List Op → Memory
  | [] => m
  | op :: ops => (m.step op).2.run ops

theorem run_append (m : Memory) (ops more : List Op) :
    m.run (ops ++ more) = (m.run ops).run more := by
  induction ops generalizing m with
  | nil => rfl
  | cons op ops ih => exact ih (m.step op).2

-- ============================================================= one step

/-- Are all records of a key as old as a window? So are those of a key that
has none. -/
def Stale (seconds : Nat) (key : Key) (m : Memory) : Prop :=
  ∀ t ∈ (m.log key).records, span seconds ≤ m.now - t

/-- Is it a check of the key? -/
def Op.checks (key : Key) : Op → Bool
  | check k .. => k = key
  | _ => false

/-- Does it take the row of a key away, if there is one? -/
def Op.removes (key : Key) (m : Memory) : Op → Prop
  | close | reset => True
  | purge seconds => m.Stale seconds key
  | _ => False

theorem checks_iff {key : Key} {op : Op} :
    op.checks key = true ↔ ∃ limit seconds, op = .check key limit seconds := by
  cases op with
  | check other limit seconds =>
      refine decide_eq_true_iff.trans ⟨?_, ?_⟩
      · rintro rfl
        exact ⟨limit, seconds, rfl⟩
      · rintro ⟨_, _, same⟩
        exact (Op.check.inj same).1
  | _ => exact ⟨nofun, nofun⟩

/-- Pruning leaves nothing of a log exactly if all of it is old: where the
first young record stands does not matter. -/
theorem surviving_eq_none_iff {now seconds : Nat} {log : Log} :
    surviving now seconds log = none ↔ ∀ t ∈ log.records, span seconds ≤ now - t := by
  have emptied : (log.prune now (span seconds)).isEmpty = true
      ↔ ∀ t ∈ log.records, span seconds ≤ now - t := by
    unfold Log.isEmpty Log.prune
    rw [List.isEmpty_iff, List.dropWhile_eq_nil_iff]
    exact forall₂_congr fun t _ => decide_eq_true_iff
  unfold surviving
  dsimp only
  rw [← emptied]
  split
  next none_left => exact ⟨fun _ => none_left, fun _ => rfl⟩
  next left => exact ⟨nofun, fun none_left => absurd none_left left⟩

theorem mem_keys_purge {seconds : Nat} {m : Memory} {key : Key} :
    key ∈ (m.purge seconds).2.logs.keys ↔ key ∈ m.logs.keys ∧ ¬ m.Stale seconds key := by
  have row : (m.purge seconds).2.logs.get? key
      = (m.logs.get? key).bind fun log => surviving m.now seconds log :=
    Table.get?_filterMap _ _ _
  rw [Table.mem_keys_iff, Table.mem_keys_iff, row]
  unfold Stale Memory.log
  cases m.logs.get? key with
  | none => exact ⟨nofun, fun h => nomatch h.1⟩
  | some log =>
      show (surviving m.now seconds log).isSome = true
        ↔ true = true ∧ ¬ ∀ t ∈ log.records, span seconds ≤ m.now - t
      rw [← surviving_eq_none_iff, Option.isSome_iff_ne_none, and_iff_right rfl]

/-- A count leaves the rows where they are, and makes none. -/
theorem keys_peek (key : Key) (limit seconds : Nat) (m : Memory) :
    (m.peek key limit seconds).2.logs.keys = m.logs.keys := by
  unfold Memory.peek
  cases row : m.logs.get? key with
  | none => rfl
  | some log =>
      have there : key ∈ m.logs.keys := Table.mem_keys_iff.2 (by rw [row]; rfl)
      exact (Table.keys_put m.logs key _).trans (if_pos there)

/-- What a step does to the keys. -/
theorem mem_keys_step {m : Memory} {op : Op} {key : Key} :
    key ∈ (m.step op).2.logs.keys
      ↔ op.checks key = true ∨ key ∈ m.logs.keys ∧ ¬ op.removes key m := by
  cases op with
  | check other limit seconds =>
      have put : key ∈ (m.step (.check other limit seconds)).2.logs.keys
        ↔ key = other ∨ key ∈ m.logs.keys := Table.mem_keys_put
      rw [put]
      refine or_congr ?_ (iff_self_and.2 fun _ => nofun)
      exact eq_comm.trans decide_eq_true_iff.symm
  | peek other limit seconds =>
      have kept : (m.step (.peek other limit seconds)).2.logs.keys = m.logs.keys :=
        keys_peek other limit seconds m
      rw [kept]
      exact ⟨fun there => .inr ⟨there, nofun⟩, fun h => (h.resolve_left nofun).1⟩
  | purge seconds =>
      exact mem_keys_purge.trans ⟨.inr, fun h => h.resolve_left nofun⟩
  | close | reset => exact ⟨nofun, fun h => absurd trivial (h.resolve_left nofun).2⟩
  | advance ms | turn now =>
      exact ⟨fun there => .inr ⟨there, nofun⟩, fun h => (h.resolve_left nofun).1⟩

-- ================================================================= runs

/-- Does none of the operations remove the key, each where those before it
have led? -/
def Spares (key : Key) : List Op → Memory → Prop
  | [], _ => True
  | op :: ops, m => ¬ op.removes key m ∧ Spares key ops (m.step op).2

/-- The key was checked in a run, and nothing since its last check removed
it. -/
def Held (key : Key) (ops : List Op) (m : Memory) : Prop :=
  ∃ before limit seconds later, ops = before ++ .check key limit seconds :: later
    ∧ (∀ op ∈ later, op.checks key = false)
    ∧ (m.run (before ++ [.check key limit seconds])).Spares key later

theorem spares_snoc {key : Key} {ops : List Op} {op : Op} {m : Memory} :
    m.Spares key (ops ++ [op]) ↔ m.Spares key ops ∧ ¬ op.removes key (m.run ops) := by
  induction ops generalizing m with
  | nil => exact ⟨fun h => ⟨trivial, h.1⟩, fun h => ⟨h.2, trivial⟩⟩
  | cons first ops ih =>
      show ¬ first.removes key m ∧ (m.step first).2.Spares key (ops ++ [op]) ↔ _
      rw [ih, ← and_assoc]
      rfl

/-- One more operation: a check of the key, or one that does not remove it. -/
theorem held_snoc {key : Key} {ops : List Op} {op : Op} {m : Memory} :
    m.Held key (ops ++ [op])
      ↔ op.checks key = true ∨ m.Held key ops ∧ ¬ op.removes key (m.run ops) := by
  constructor
  · rintro ⟨before, limit, seconds, later, split, last, spared⟩
    rcases List.eq_nil_or_concat' later with rfl | ⟨earlier, final, rfl⟩
    · obtain ⟨-, same⟩ := List.append_inj' split rfl
      exact .inl (checks_iff.2 ⟨limit, seconds, List.singleton_inj.1 same⟩)
    · rw [← List.cons_append, ← List.append_assoc] at split
      obtain ⟨rfl, same⟩ := List.append_inj' split rfl
      obtain rfl := List.singleton_inj.1 same
      obtain ⟨spared, kept⟩ := spares_snoc.1 spared
      rw [← run_append, List.append_assoc] at kept
      refine .inr ⟨⟨before, limit, seconds, earlier, rfl, fun o ho => ?_, spared⟩, kept⟩
      exact last o (List.mem_append_left _ ho)
  · intro h
    by_cases checked : op.checks key = true
    · obtain ⟨limit, seconds, rfl⟩ := checks_iff.1 checked
      exact ⟨ops, limit, seconds, [], rfl, nofun, trivial⟩
    · obtain ⟨⟨before, limit, seconds, later, rfl, last, spared⟩, kept⟩ :=
        h.resolve_left checked
      refine ⟨before, limit, seconds, later ++ [op], ?_, fun o ho => ?_, ?_⟩
      · rw [List.append_assoc, List.cons_append]
      · rcases List.mem_append.1 ho with ho | ho
        · exact last o ho
        · rw [List.mem_singleton.1 ho]
          exact Bool.eq_false_of_not_eq_true checked
      · rw [spares_snoc, ← run_append, List.append_assoc]
        exact ⟨spared, kept⟩

/-- What purges and counts do to the keys of windows in any state. -/
structure Accounted (m : Memory) : Prop where
  /-- A purge takes away the keys whose records are all old, and no other. -/
  purged : ∀ seconds key, key ∈ (m.purge seconds).2.logs.keys
    ↔ key ∈ m.logs.keys ∧ ¬ m.Stale seconds key
  /-- It tells how many fewer keys there are. -/
  counted : ∀ seconds, (m.purge seconds).1 + (m.purge seconds).2.size = m.size
  peeked : ∀ key limit seconds, (m.peek key limit seconds).2.logs.keys = m.logs.keys

theorem accounted (m : Memory) : Accounted m where
  purged _ _ := mem_keys_purge
  counted _ := Nat.sub_add_cancel (Table.size_filterMap_le _ _)
  peeked key limit seconds := keys_peek key limit seconds m

/-- After any run, under any clock, the keys with a row are those that were
checked and that nothing since their last check removed. -/
theorem tracked_iff_held (now : Nat) (ops : List Op) :
    let m := (Memory.start now).run ops
    (∀ key, key ∈ m.logs.keys ↔ (Memory.start now).Held key ops) ∧ m.Accounted := by
  intro m
  refine ⟨fun key => ?_, accounted m⟩
  induction ops using List.reverseRecOn with
  | nil =>
      refine ⟨nofun, ?_⟩
      rintro ⟨before, limit, seconds, later, split, -⟩
      exact absurd split.symm (List.append_ne_nil_of_right_ne_nil _ nofun)
  | append_singleton ops op ih =>
      have last : m = (((Memory.start now).run ops).step op).2 := run_append _ ops [op]
      rw [last, mem_keys_step, held_snoc]
      exact or_congr_right (and_congr_left fun _ => ih)

/-- A clock that goes back from 5000 to 1000: under a window of two seconds
the older record has expired at 4000, but it stands behind the younger one,
and the key stays until both are old. -/
example :
    let ops : List Op := [.turn 5000, .check ⟨"k"⟩ 2 2, .turn 1000, .check ⟨"k"⟩ 2 2,
      .turn 4000, .purge 2]
    let m := (Memory.start 0).run ops
    m.logs.keys = [⟨"k"⟩] ∧ (m.log ⟨"k"⟩).records = [5000, 1000]
      ∧ ((m.run [.turn 7000]).purge 2).1 = 1 := by
  decide +kernel

end Memory

end TenantGate.Limit
