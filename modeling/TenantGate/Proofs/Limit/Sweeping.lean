/-
A sweeper bounds what is kept in memory.

# The bound

Keys come by checks alone, and a sweep takes away every key that has no
young record. So after each sweep a key is there because it was checked
less than a window ago, and until the next sweep come the keys that are
checked meanwhile. `Swept.tracked_recently` says this of every state from
the first sweep on: each key was checked within the last window and the
last period, so there are no more keys than were checked in that time.

# The argument

A sweeper that was started and whose memory is still there goes on
counting (`Sweeper.running`). What a step may add to the windows is
said once (`step_adds`). `Booked` holds the records to the checks they
come from, since a sweep looks at records, and `Watched` holds the keys to
the phase of the sweeper: what was checked before the last sweep was
checked less than a window before it.
-/
import Mathlib.Data.List.Dedup
import Mathlib.Data.List.Perm.Subperm
import TenantGate.Proofs.Limit.Ledgers

namespace TenantGate.Window

/-- A check adds nothing but the present time. -/
theorem Log.mem_of_mem_check {now limit seconds t : Nat} {log : Log}
    (h : t ∈ (log.check now limit seconds).2.records) : t ∈ log.records ∨ t = now := by
  have pruned : ∀ u ∈ (log.prune now (span seconds)).records, u ∈ log.records :=
    fun u hu => (prune_suffix _ _ _).subset hu
  unfold check at h
  dsimp only at h
  split at h
  next =>
    rcases List.mem_append.1 h with h | h
    · exact .inl (pruned t h)
    · exact .inr (List.mem_singleton.1 h)
  next => exact .inl (pruned t h)

end TenantGate.Window

namespace TenantGate.Limit

open Window (Log maxCount span)

-- ========================================================= what is kept

namespace Memory

/-- Nothing is in the one that is not in the other, at the same time. -/
structure Below (m m' : Memory) : Prop where
  now : m.now = m'.now
  keys : ∀ key ∈ m.logs.keys, key ∈ m'.logs.keys
  records : ∀ key, ∀ t ∈ (m.log key).records, t ∈ (m'.log key).records

namespace Below

variable {m m' m'' : Memory}

theorem refl (m : Memory) : Below m m := ⟨rfl, fun _ h => h, fun _ _ h => h⟩

theorem trans (h : Below m m') (h' : Below m' m'') : Below m m'' :=
  ⟨h.now.trans h'.now, fun key hk => h'.keys key (h.keys key hk),
    fun key t ht => h'.records key t (h.records key t ht)⟩

theorem empty {m : Memory} (now : m.now = m'.now) (bare : m.logs = ∅) : Below m m' := by
  refine ⟨now, fun key hk => ?_, fun key t ht => ?_⟩
  · rw [bare] at hk
    cases hk
  · unfold log at ht
    rw [bare] at ht
    cases ht

theorem purge (seconds : Nat) (m : Memory) : Below (m.purge seconds).2 m := by
  refine ⟨rfl, fun key hk => ?_, fun key t ht => ?_⟩
  · rw [Table.mem_keys_iff] at hk ⊢
    have row := Table.get?_filterMap (fun _ log => surviving m.now seconds log) m.logs key
    unfold Memory.purge at hk
    dsimp only at hk
    rw [row] at hk
    cases old : m.logs.get? key with
    | none =>
        rw [old] at hk
        cases hk
    | some log => rfl
  · rw [log_purge] at ht
    exact (Log.prune_suffix _ _ _).subset ht

theorem peek (key : Key) (limit seconds : Nat) (m : Memory) :
    Below (m.peek key limit seconds).2 m := by
  refine ⟨now_peek _ _ _ _, fun other hk => ?_, fun other t ht => ?_⟩
  · unfold Memory.peek at hk
    cases row : m.logs.get? key with
    | none =>
        rw [row] at hk
        exact hk
    | some log =>
        rw [row] at hk
        rcases Table.mem_keys_put.1 hk with rfl | hk
        · rw [Table.mem_keys_iff, row]
          rfl
        · exact hk
  · rw [log_peek] at ht
    split at ht
    next e =>
      rw [e]
      exact (Log.prune_suffix _ _ _).subset ht
    next => exact ht

theorem passAll (ms : Nat) (sweepers : List Sweeper) (m : Memory) :
    Below (Swept.passAll ms sweepers m).2 m :=
  Swept.passAll_keeps ms (P := fun m' => Below m' m)
    (fun s _ m' below => (purge s.seconds m').trans below) (refl m)

end Below

/-- A purge leaves the keys that have a young record. -/
theorem exists_young_of_purge {seconds : Nat} {m : Memory} {key : Key}
    (left : key ∈ (m.purge seconds).2.logs.keys) :
    ∃ t ∈ (m.log key).records, m.now - t < span seconds := by
  have row : (m.purge seconds).2.logs.get? key
      = (m.logs.get? key).bind fun log => surviving m.now seconds log :=
    Table.get?_filterMap _ _ _
  rw [Table.mem_keys_iff, row] at left
  unfold log
  cases old : m.logs.get? key with
  | none =>
      rw [old] at left
      cases left
  | some log =>
      rw [old] at left
      show ∃ t ∈ log.records, _
      have some_left : (log.prune m.now (span seconds)).records ≠ [] := by
        intro none_left
        have gone : surviving m.now seconds log = none := if_pos (by
          unfold Log.isEmpty
          rw [none_left]
          rfl)
        rw [Option.bind_some, gone] at left
        cases left
      -- the first record that is left is young
      have young := List.head_dropWhile_not (fun t => decide (span seconds ≤ m.now - t)) some_left
      rw [decide_eq_false_iff_not, Nat.not_le] at young
      exact ⟨_, (Log.prune_suffix _ _ _).subset (List.head_mem some_left), young⟩

end Memory

-- ============================================================== sweepers

namespace Sweeper

/-- A sweeper in service, so many milliseconds after its start. -/
def running (seconds elapsed : Nat) : Sweeper := ⟨seconds, elapsed, false, false⟩

variable {seconds elapsed ms : Nat} {sweepers : List Sweeper} {m : Memory}

theorem pass_running (seconds elapsed ms : Nat) (m : Memory) :
    (running seconds elapsed).pass ms m
      = (running seconds (elapsed + ms),
        if (running seconds elapsed).due ms then (m.purge seconds).2 else m) := by
  unfold pass
  rw [if_neg (show ¬ (running seconds elapsed).ended = true from nofun)]
  dsimp only
  split
  next => rw [if_neg (show ¬ (running seconds elapsed).orphaned = true from nofun)]; rfl
  next => rfl

/-- It goes on counting. -/
theorem running_passAll (there : running seconds elapsed ∈ sweepers) :
    running seconds (elapsed + ms) ∈ (Swept.passAll ms sweepers m).1 := by
  induction sweepers generalizing m with
  | nil => cases there
  | cons s rest ih =>
      show _ ∈ (s.pass ms m).1 :: (Swept.passAll ms rest (s.pass ms m).2).1
      rcases List.mem_cons.1 there with rfl | there
      · rw [pass_running]
        exact List.mem_cons_self
      · exact List.mem_cons_of_mem _ (ih there)

/-- When a period of it is over, all keys that are left had a young
record. -/
theorem exists_young_of_due (there : running seconds elapsed ∈ sweepers)
    (due : (running seconds elapsed).due ms = true) {key : Key}
    (left : key ∈ (Swept.passAll ms sweepers m).2.logs.keys) :
    ∃ t ∈ (m.log key).records, m.now - t < span seconds := by
  -- other sweepers act before and after it, and all they do is to purge
  induction sweepers generalizing m with
  | nil => cases there
  | cons s rest ih =>
      have left : key ∈ (Swept.passAll ms rest (s.pass ms m).2).2.logs.keys := left
      rcases List.mem_cons.1 there with rfl | there
      · rw [pass_running, if_pos due] at left
        exact Memory.exists_young_of_purge ((Memory.Below.passAll ms rest _).keys key left)
      · obtain ⟨t, mem, young⟩ := ih there left
        have below : (s.pass ms m).2.Below m := by
          rcases s.pass_cases ms m with e | e
          · rw [e]
            exact .refl m
          · rw [e]
            exact .purge _ m
        rw [below.now] at young
        exact ⟨t, below.records key t mem, young⟩

end Sweeper

-- ================================================================= steps

namespace Swept

/-- The check that an operation is: its key, with the time. -/
def Op.checked (now : Nat) : Op → List (Key × Nat)
  | check key .. => [(key, now)]
  | _ => []

/-- The checks of a run: their keys, with the times. -/
def checked (w : Swept) : List Op → List (Key × Nat)
  | [] => []
  | op :: ops => op.checked w.memory.now ++ (w.step op).2.checked ops

/-- What a step may add to the windows: a check its key, and the present
time to the records of that key. -/
structure Adds (w : Swept) (op : Op) (m : Memory) : Prop where
  now : m.now = w.memory.now + op.elapsed
  keys : ∀ key ∈ m.logs.keys,
    key ∈ w.memory.logs.keys ∨ (key, w.memory.now) ∈ op.checked w.memory.now
  records : ∀ key, ∀ t ∈ (m.log key).records,
    t ∈ (w.memory.log key).records ∨ (key, t) ∈ op.checked w.memory.now

theorem adds_of_below {w : Swept} {op : Op} {m : Memory} (below : m.Below w.memory)
    (still : op.elapsed = 0) : Adds w op m :=
  ⟨by rw [still]; exact below.now, fun key hk => .inl (below.keys key hk),
    fun key t ht => .inl (below.records key t ht)⟩

theorem step_adds (w : Swept) {op : Op} (fits : w.memory.now + op.elapsed ≤ maxCount) :
    Adds w op (w.step op).2.memory := by
  cases op with
  | check key limit seconds =>
      refine ⟨rfl, fun other hk => ?_, fun other t ht => ?_⟩
      · rcases Table.mem_keys_put.1 hk with rfl | hk
        · exact .inr List.mem_cons_self
        · exact .inl hk
      · have ht : t ∈ ((w.memory.check key limit seconds).2.log other).records := ht
        rw [Memory.log_check] at ht
        split at ht
        next e =>
          rw [e]
          rcases Log.mem_of_mem_check ht with old | rfl
          · exact .inl old
          · exact .inr List.mem_cons_self
        next => exact .inl ht
  | peek key limit seconds => exact adds_of_below (.peek key limit seconds w.memory) rfl
  | close => exact adds_of_below (.empty rfl rfl) rfl
  | reset => exact adds_of_below (.empty rfl rfl) rfl
  | purge seconds => exact adds_of_below (.purge seconds w.memory) rfl
  | advance ms =>
      have below := Memory.Below.passAll ms w.sweepers (w.memory.advance ms)
      exact ⟨below.now.trans (Memory.now_advance fits), fun key hk => .inl (below.keys key hk),
        fun key t ht => .inl (below.records key t ht)⟩
  | sweep seconds => exact adds_of_below (.refl _) rfl
  | replace => exact adds_of_below (.empty rfl rfl) rfl
  | sweepEnded => exact adds_of_below (.refl _) rfl

/-- Each record comes from a check, unless it is as old as `since`. -/
def Booked (since : Nat) (calls : List (Key × Nat)) (m : Memory) : Prop :=
  ∀ key, ∀ t ∈ (m.log key).records, t ≤ m.now ∧ (since < t → (key, t) ∈ calls)

theorem Booked.step {since : Nat} {calls : List (Key × Nat)} {w : Swept} {op : Op}
    (h : Booked since calls w.memory) (fits : w.memory.now + op.elapsed ≤ maxCount) :
    Booked since (calls ++ op.checked w.memory.now) (w.step op).2.memory := by
  have adds := step_adds w fits
  intro key t mem
  rw [adds.now]
  rcases adds.records key t mem with mem | called
  · obtain ⟨past, booked⟩ := h key t mem
    exact ⟨Nat.le_trans past (Nat.le_add_right _ _),
      fun late => List.mem_append_left _ (booked late)⟩
  · have now : t = w.memory.now := by
      cases op with
      | check other limit seconds =>
          exact congrArg Prod.snd (List.mem_singleton.1 called)
      | _ => cases called
    rw [now] at called ⊢
    exact ⟨Nat.le_add_right _ _, fun _ => List.mem_append_right _ called⟩

/-- Wherever a run has led, no record is of a time to come. -/
theorem past_run {w : Swept} {ops : List Op} (clock : w.memory.now + elapsed ops ≤ maxCount)
    (past : Booked w.memory.now [] w.memory) :
    Booked (w.run ops).2.memory.now [] (w.run ops).2.memory
      ∧ (w.run ops).2.memory.now = w.memory.now + elapsed ops := by
  induction ops generalizing w with
  | nil => exact ⟨past, rfl⟩
  | cons op ops ih =>
      have total : w.memory.now + (op.elapsed + elapsed ops) ≤ maxCount := clock
      have fits : w.memory.now + op.elapsed ≤ maxCount := by omega
      have adds := step_adds w fits
      have next : Booked (w.step op).2.memory.now [] (w.step op).2.memory := fun key t mem => by
        have := (past.step fits key t mem).1
        exact ⟨this, fun late => absurd late (Nat.not_lt.2 this)⟩
      have rest : (w.step op).2.memory.now + elapsed ops ≤ maxCount := by
        rw [adds.now]
        omega
      obtain ⟨later, now⟩ := ih rest next
      refine ⟨later, ?_⟩
      show ((w.step op).2.run ops).2.memory.now = w.memory.now + (op.elapsed + elapsed ops)
      rw [now, adds.now, Nat.add_assoc]

-- =========================================================== the sweeper

/-- The windows of a sweeper that started at `since`, `elapsed` milliseconds
ago: from its first period on, a key that is there was checked less than
a window before the last period began, or after that. -/
structure Watched (since seconds elapsed : Nat) (calls : List (Key × Nat)) (w : Swept) :
    Prop where
  there : Sweeper.running seconds elapsed ∈ w.sweepers
  clock : w.memory.now = since + elapsed
  booked : Booked since calls w.memory
  recent : max seconds 1 * 1000 ≤ elapsed → ∀ key ∈ w.memory.logs.keys,
    ∃ t, (key, t) ∈ calls
      ∧ w.memory.now ≤ t + seconds * 1000 + elapsed % (max seconds 1 * 1000)

namespace Watched

variable {since seconds elapsed : Nat} {calls : List (Key × Nat)} {w : Swept} {op : Op}

theorem start {m : Memory} (sweepers : List Sweeper) (past : Booked m.now [] m) (seconds : Nat) :
    Watched m.now seconds 0 [] (step ⟨m, sweepers⟩ (.sweep seconds)).2 := by
  refine ⟨List.mem_append_right _ (List.mem_singleton_self _), rfl, past, fun full => ?_⟩
  exact absurd full (Nat.not_le.2 (Sweeper.period_pos (.running seconds 0)))

theorem running_step (there : Sweeper.running seconds elapsed ∈ w.sweepers)
    (kept : op ≠ .replace) :
    Sweeper.running seconds (elapsed + op.elapsed) ∈ (w.step op).2.sweepers := by
  cases op with
  | advance ms => exact Sweeper.running_passAll there
  | sweep seconds => exact List.mem_append_left _ there
  | replace => exact absurd rfl kept
  | _ => exact there

/-- The end of a period: what is left was checked less than a window ago,
and not before the sweeper started, for the window is no longer than the
period. -/
theorem recent_of_due (h : Watched since seconds elapsed calls w) {ms : Nat}
    (fits : w.memory.now + ms ≤ maxCount)
    (due : (Sweeper.running seconds elapsed).due ms = true) {key : Key}
    (left : key ∈ (w.step (.advance ms)).2.memory.logs.keys) :
    ∃ t, (key, t) ∈ calls ∧ w.memory.now + ms ≤ t + seconds * 1000 := by
  obtain ⟨t, mem, young⟩ := Sweeper.exists_young_of_due h.there due left
  rw [Memory.now_advance fits] at young
  have short : span seconds ≤ seconds * 1000 := Nat.min_le_left _ _
  refine ⟨t, (h.booked key t mem).2 ?_, by omega⟩
  -- a period at least has passed since the start
  have full : max seconds 1 * 1000 ≤ elapsed + ms := by
    have lt : elapsed / (max seconds 1 * 1000) < (elapsed + ms) / (max seconds 1 * 1000) :=
      of_decide_eq_true due
    by_contra before
    rw [Nat.div_eq_of_lt (Nat.not_le.1 before)] at lt
    exact absurd lt (Nat.not_lt_zero _)
  have clock := h.clock
  omega

/-- Within a period the time since it began grows as the clock does. -/
theorem recent_of_not_due (h : Watched since seconds elapsed calls w)
    (fits : w.memory.now + op.elapsed ≤ maxCount)
    (early : ¬ (Sweeper.running seconds elapsed).due op.elapsed = true)
    (full : max seconds 1 * 1000 ≤ elapsed + op.elapsed) {key : Key}
    (left : key ∈ (w.step op).2.memory.logs.keys) :
    ∃ t, (key, t) ∈ calls ++ op.checked w.memory.now
      ∧ w.memory.now + op.elapsed
        ≤ t + seconds * 1000 + (elapsed + op.elapsed) % (max seconds 1 * 1000) := by
  have pos : 0 < max seconds 1 * 1000 := Sweeper.period_pos (.running seconds 0)
  have same : (elapsed + op.elapsed) / (max seconds 1 * 1000)
      = elapsed / (max seconds 1 * 1000) := by
    have le : ¬ elapsed / (max seconds 1 * 1000)
        < (elapsed + op.elapsed) / (max seconds 1 * 1000) :=
      fun lt => early (decide_eq_true lt)
    exact Nat.le_antisymm (Nat.not_lt.1 le) (Nat.div_le_div_right (Nat.le_add_right _ _))
  have phase : (elapsed + op.elapsed) % (max seconds 1 * 1000)
      = elapsed % (max seconds 1 * 1000) + op.elapsed := by
    have before := Nat.div_add_mod elapsed (max seconds 1 * 1000)
    have after := Nat.div_add_mod (elapsed + op.elapsed) (max seconds 1 * 1000)
    rw [same] at after
    omega
  have full : max seconds 1 * 1000 ≤ elapsed := by
    have := (Nat.one_le_div_iff pos).2 full
    rw [same] at this
    exact (Nat.one_le_div_iff pos).1 this
  rw [phase]
  rcases (step_adds w fits).keys key left with old | called
  · obtain ⟨t, called, recent⟩ := h.recent full key old
    exact ⟨t, List.mem_append_left _ called, by omega⟩
  · exact ⟨w.memory.now, List.mem_append_right _ called, by omega⟩

theorem step (h : Watched since seconds elapsed calls w) (kept : op ≠ .replace)
    (fits : w.memory.now + op.elapsed ≤ maxCount) :
    Watched since seconds (elapsed + op.elapsed) (calls ++ op.checked w.memory.now)
      (w.step op).2 := by
  have now := (step_adds w fits).now
  refine ⟨running_step h.there kept, ?_, h.booked.step fits, fun full key left => ?_⟩
  · rw [now, h.clock, Nat.add_assoc]
  · rw [now]
    by_cases due : (Sweeper.running seconds elapsed).due op.elapsed = true
    · cases op with
      | advance ms =>
          obtain ⟨t, called, recent⟩ := h.recent_of_due fits due left
          exact ⟨t, List.mem_append_left _ called, Nat.le_add_right_of_le recent⟩
      | _ => exact absurd (of_decide_eq_true due) (Nat.lt_irrefl _)
    · exact h.recent_of_not_due fits due full left

theorem run (h : Watched since seconds elapsed calls w) {ops : List Op}
    (kept : ∀ op ∈ ops, op ≠ .replace)
    (fits : w.memory.now + Swept.elapsed ops ≤ maxCount) :
    Watched since seconds (elapsed + Swept.elapsed ops) (calls ++ w.checked ops)
      (w.run ops).2 := by
  induction ops generalizing elapsed calls w with
  | nil => exact (List.append_nil calls).symm ▸ h
  | cons op ops ih =>
      have total : w.memory.now + (op.elapsed + Swept.elapsed ops) ≤ maxCount := fits
      have fits : w.memory.now + op.elapsed ≤ maxCount := by omega
      have next := h.step (kept op List.mem_cons_self) fits
      have now := (step_adds w fits).now
      have run := ih next (fun o ho => kept o (List.mem_cons_of_mem _ ho)) (by rw [now]; omega)
      rw [List.append_assoc, Nat.add_assoc] at run
      exact run

end Watched

-- =========================================================== the theorem

/-- From the first period of a sweeper on, for as long as its memory is
there: each key that is kept was checked within the last window and the
last period, so that no more keys are kept than were checked in that time.
Limits and windows of what is asked, other sweepers, and what was kept
when the sweeper started, do not matter. -/
theorem tracked_recently {start seconds : Nat} {before after : List Op}
    (kept : ∀ op ∈ after, op ≠ .replace)
    (clock : start + elapsed (before ++ after) ≤ maxCount)
    (full : max seconds 1 * 1000 ≤ elapsed after) :
    let w := (((Swept.start start).run before).2.step (.sweep seconds)).2
    let last := (w.run after).2
    let recent := (w.checked after).filter fun call =>
      last.memory.now < call.2 + (seconds * 1000 + max seconds 1 * 1000)
    (∀ key ∈ last.memory.logs.keys, ∃ t, (key, t) ∈ recent)
      ∧ last.memory.size ≤ (recent.map Prod.fst).dedup.length := by
  intro w last recent
  rw [elapsed_append] at clock
  have bare : Booked start [] (Memory.start start) := fun key t mem => by cases mem
  have opening : (Swept.start start).memory.now + elapsed before ≤ maxCount :=
    show start + elapsed before ≤ maxCount by omega
  obtain ⟨past, now⟩ := past_run opening bare
  have now : w.memory.now = start + elapsed before := now
  have watched := (Watched.start ((Swept.start start).run before).2.sweepers past seconds).run
    kept (show w.memory.now + elapsed after ≤ maxCount by omega)
  rw [Nat.zero_add, List.nil_append] at watched
  have checked : ∀ key ∈ last.memory.logs.keys, ∃ t, (key, t) ∈ recent := by
    intro key left
    obtain ⟨t, called, close⟩ := watched.recent full key left
    have within : elapsed after % (max seconds 1 * 1000) < max seconds 1 * 1000 :=
      Nat.mod_lt _ (Sweeper.period_pos (.running seconds 0))
    refine ⟨t, List.mem_filter.2 ⟨called, decide_eq_true ?_⟩⟩
    show last.memory.now < t + (seconds * 1000 + max seconds 1 * 1000)
    have close : last.memory.now
        ≤ t + seconds * 1000 + elapsed after % (max seconds 1 * 1000) := close
    omega
  refine ⟨checked, ?_⟩
  show last.memory.logs.size ≤ _
  rw [← Table.length_keys]
  refine (List.subperm_of_subset last.memory.logs.nodup_keys fun key left => ?_).length_le
  obtain ⟨t, called⟩ := checked key left
  exact List.mem_dedup.2 (List.mem_map.2 ⟨_, called, rfl⟩)

/-- A sweeper with a window of a second, after two of its periods. The keys
that were admitted for windows of a minute are gone; one is there that was
checked since, and refused. -/
theorem tracked_recently_of_a_second :
    let before : List Op := [.check ⟨"a"⟩ 5 60, .advance 7]
    let after : List Op := [.check ⟨"b"⟩ 5 60, .advance 600, .check ⟨"c"⟩ 5 60, .advance 1500,
      .peek ⟨"b"⟩ 5 60, .check ⟨"d"⟩ 0 60]
    let w := (((Swept.start 0).run before).2.step (.sweep 1)).2
    let last := (w.run after).2
    let recent := (w.checked after).filter fun call =>
      last.memory.now < call.2 + (1 * 1000 + max 1 1 * 1000)
    last.memory.logs.keys = [⟨"d"⟩]
      ∧ recent = [(⟨"c"⟩, 607), (⟨"d"⟩, 2107)]
      ∧ (∀ key ∈ last.memory.logs.keys, ∃ t, (key, t) ∈ recent)
      ∧ last.memory.size ≤ (recent.map Prod.fst).dedup.length := by
  intro before after
  have kept : ∀ op ∈ after, op ≠ .replace := by simp [after]
  have clock : 0 + elapsed (before ++ after) ≤ maxCount := by decide +kernel
  have full : max 1 1 * 1000 ≤ elapsed after := by decide +kernel
  exact ⟨by decide +kernel, by decide +kernel,
    @tracked_recently 0 1 before after kept clock full⟩

end Swept

end TenantGate.Limit
