/-
What a count takes away is not missed.

# Shed records

A count prunes the log that it looks at, and so do checks and purges, each
with a window of its own. `Log.Sheds` compares two logs of which one was
pruned more than the other: they are the same but for records at the front
of the first one, all of them as old as a window of some length. To a check
or a count with that window there is no difference between the two
(`prune_eq`). A purge may look at any other window: one that is shorter
takes all of these records away, and one that is longer stops at one of
them, or goes on in both logs alike (`prune`).

# All the logs

`Memory.Sheds` is the same for all keys, on one clock. No step makes more
of a difference than there was, and a count is such a difference itself
(`of_peek`). Nothing here needs records that stand in order.
-/
import TenantGate.Proofs.Limit.Logs

namespace TenantGate

open Window (maxCount span)

namespace Window.Log

/-- Are two logs the same, but for records at the front of the first that
are as old as a window of this length? -/
def Sheds (now length : Nat) (log log' : Log) : Prop :=
  ∃ gone, log.records = gone ++ log'.records ∧ ∀ t ∈ gone, length ≤ now - t

namespace Sheds

variable {now length : Nat} {log log' : Log}

theorem refl (now length : Nat) (log : Log) : Sheds now length log log := ⟨[], rfl, nofun⟩

theorem of_prune (now length : Nat) (log : Log) : Sheds now length log (log.prune now length) :=
  exists_append_prune now length log

theorem later (h : Sheds now length log log') {later : Nat} (le : now ≤ later) :
    Sheds later length log log' := by
  obtain ⟨gone, split, old⟩ := h
  refine ⟨gone, split, fun t mem => ?_⟩
  have := old t mem
  omega

/-- When the window is looked at there is no difference. -/
theorem prune_eq (h : Sheds now length log log') :
    log'.prune now length = log.prune now length := by
  obtain ⟨gone, split, old⟩ := h
  unfold Log.prune
  rw [split, List.dropWhile_append_of_pos fun t mem => decide_eq_true (old t mem)]

/-- Another window may be looked at as well. -/
theorem prune (h : Sheds now length log log') (span : Nat) :
    Sheds now length (log.prune now span) (log'.prune now span) := by
  obtain ⟨gone, split, old⟩ := h
  obtain ⟨dropped, split', old'⟩ := exists_append_prune now span log'
  have pruned : (log.prune now span).records
      = if (gone.dropWhile fun t => span ≤ now - t).isEmpty then (log'.prune now span).records
        else (gone.dropWhile fun t => span ≤ now - t) ++ log'.records := by
    unfold Log.prune
    rw [split, List.dropWhile_append]
  by_cases none_left : (gone.dropWhile fun t => span ≤ now - t) = []
  · refine ⟨[], ?_, nofun⟩
    rw [pruned, none_left]
    rfl
  · -- a record that is left is younger than the span, which then is the longer one
    have young := List.head_dropWhile_not (fun t => decide (span ≤ now - t)) none_left
    have first := old _ ((List.dropWhile_suffix _).subset (List.head_mem none_left))
    rw [decide_eq_false_iff_not] at young
    refine ⟨(gone.dropWhile fun t => span ≤ now - t) ++ dropped, ?_, fun t mem => ?_⟩
    · rw [pruned, if_neg (by rwa [List.isEmpty_iff]), List.append_assoc, ← split']
    · rcases List.mem_append.1 mem with mem | mem
      · exact old t ((List.dropWhile_suffix _).subset mem)
      · have := old' t mem
        omega

end Sheds

end Window.Log

namespace Limit.Memory

/-- Are two memories the same, but for expired records at the front of the
first one's logs? -/
structure Sheds (length : Nat) (m m' : Memory) : Prop where
  now : m'.now = m.now
  logs : ∀ key, (m.log key).Sheds m.now length (m'.log key)

namespace Sheds

variable {length seconds : Nat} {m m' : Memory}

/-- All that a count does is to shed. -/
theorem of_peek (key : Key) (limit seconds : Nat) (m : Memory) :
    Sheds (span seconds) m (m.peek key limit seconds).2 := by
  refine ⟨now_peek .., fun other => ?_⟩
  rw [log_peek]
  split
  next e =>
    rw [e]
    exact .of_prune ..
  next => exact .refl ..

theorem check (h : Sheds (span seconds) m m') (key : Key) (limit : Nat) :
    (m'.check key limit seconds).1 = (m.check key limit seconds).1
      ∧ Sheds (span seconds) (m.check key limit seconds).2 (m'.check key limit seconds).2 := by
  have same : (m'.log key).check m'.now limit seconds = (m.log key).check m.now limit seconds := by
    rw [h.now]
    exact Window.Log.check_congr (h.logs key).prune_eq
  have verdict : ((m'.log key).check m'.now limit seconds).1
      = ((m.log key).check m.now limit seconds).1 := congrArg Prod.fst same
  refine ⟨verdict, h.now, fun other => ?_⟩
  rw [log_check, log_check, same]
  split
  next => exact .refl ..
  next => exact h.logs other

theorem peek (h : Sheds (span seconds) m m') (key : Key) (limit : Nat) :
    (m'.peek key limit seconds).1 = (m.peek key limit seconds).1
      ∧ Sheds (span seconds) (m.peek key limit seconds).2 (m'.peek key limit seconds).2 := by
  have same := (h.logs key).prune_eq
  refine ⟨?_, ?_, fun other => ?_⟩
  · rw [peek_eq, peek_eq]
    unfold Window.Log.remaining
    rw [h.now, same]
  · rw [now_peek, now_peek, h.now]
  · rw [log_peek, log_peek, now_peek, h.now, same]
    split
    next => exact .refl ..
    next => exact h.logs other

theorem purge (h : Sheds length m m') (seconds : Nat) :
    Sheds length (m.purge seconds).2 (m'.purge seconds).2 := by
  refine ⟨h.now, fun key => ?_⟩
  rw [log_purge, log_purge, h.now]
  exact (h.logs key).prune _

theorem advance (h : Sheds length m m') {ms : Nat} (fits : m.now + ms ≤ maxCount) :
    Sheds length (m.advance ms) (m'.advance ms) := by
  have now : (m'.advance ms).now = (m.advance ms).now := by
    show (m'.now + ms) % _ = (m.now + ms) % _
    rw [h.now]
  refine ⟨now, fun key => ?_⟩
  rw [now_advance fits]
  exact (h.logs key).later (Nat.le_add_right ..)

end Sheds

end Limit.Memory

end TenantGate
