/-
Windows in memory answer as ledgers that forget nothing.

# The rule

`Ledgers` holds one ledger a key and the time. A check counts what is
live in the ledger of its key and records an admission there; a count
reads the ledger and changes nothing; a purge, and the start of a
sweeper, is nothing at all. Only `close`, `reset` and a replacement
forget. The clock of the ledgers has no end.

# The relation

`Follows` is the simulation: each log tracks its ledger, the clocks
agree, and no sweeper purges with a shorter window than the one that is
asked for. `Follows.step` is one operation on both sides. It needs that
the windows of the operation fit and that the clock does not start
again, and nothing about the limits, which may change from call to call.
The answers are the same (`Follows.answers`) as long as 64 bits hold the
moments that refusals work out (`Swept.sums`).

# What an answer does not depend on

Since a ledger changes by admissions on its own key alone, counts,
purges, sweepers, refusals and whatever happens on other keys never
change a later answer: windows that follow ledgers which are alike on a
key answer alike about it, whatever the sums are
(`Follows.answers_alike`). On the side of the logs this is not plain at
all: each of them may prune a log or drop a key.
-/
import TenantGate.Proofs.Limit.Logs

namespace TenantGate.Limit

open Function (update update_of_ne update_self)
open Window (Ledger Verdict maxCount span)

-- ================================================ what can be asked for

namespace Swept

namespace Op

/-- Does it ask for an answer about requests? -/
def asks : Op → Bool
  | check .. | peek .. => true
  | _ => false

/-- Does it ask about a key? -/
def asksOf (key : Key) : Op → Bool
  | check other .. | peek other .. => other = key
  | _ => false

/-- The time that it takes. -/
def elapsed : Op → Nat
  | advance ms => ms
  | _ => 0

/-- Checks and counts with a window of `seconds`, purges and sweepers
with that one or a longer one. -/
def Fits (seconds : Nat) : Op → Prop
  | check _ _ window | peek _ _ window => window = seconds
  | purge window | sweep window => seconds ≤ window
  | _ => True

/-- It changes no later answer about `key`: a count, a purge, a sweeper, a
refused check, or a check on another key. `a` is its answer. -/
def Silent (key : Key) (a : Answer) : Op → Prop
  | check other .. => other = key → ∃ wait, a = .verdict (.denied wait)
  | peek .. | purge _ | sweep _ | sweepEnded => True
  | _ => False

/-- The moment that an operation works out, if it does. -/
def sum? (w : Swept) : Op → Option Nat
  | check key limit seconds => w.memory.sum? key limit seconds
  | _ => none

end Op

/-- The moments that the refusals of a run work out. -/
def sums (w : Swept) : List Op → List Nat
  | [] => []
  | op :: ops => (op.sum? w).toList ++ (w.step op).2.sums ops

def elapsed : List Op → Nat
  | [] => 0
  | op :: ops => op.elapsed + elapsed ops

theorem elapsed_append (ops later : List Op) :
    elapsed (ops ++ later) = elapsed ops + elapsed later := by
  induction ops with
  | nil => exact (Nat.zero_add _).symm
  | cons op ops ih =>
      show op.elapsed + elapsed (ops ++ later) = op.elapsed + elapsed ops + elapsed later
      rw [ih, Nat.add_assoc]

/-- The answers of a run to those operations that `which` selects. -/
def answers (which : Op → Bool) (w : Swept) (ops : List Op) : List Answer :=
  ((w.run ops).1.zip ops).filterMap fun r => if which r.2 then some r.1.1 else none

theorem answers_cons (which : Op → Bool) (w : Swept) (op : Op) (ops : List Op) :
    w.answers which (op :: ops)
      = (if which op then [(w.step op).1] else []) ++ (w.step op).2.answers which ops := by
  unfold answers
  show List.filterMap _ ((((w.step op).1, _), op) :: List.zip _ ops) = _
  rw [List.filterMap_cons]
  cases which op with
  | false => rfl
  | true => rfl

end Swept

-- ========================================================== the ledgers

open Swept (Op Answer)

/-- The ledgers by key, and the time. -/
structure Ledgers where
  of : Key → Ledger
  now : Nat

namespace Ledgers

/-- Nothing admitted yet, at a time. -/
def start (now : Nat) : Ledgers := ⟨fun _ => .empty, now⟩

/-- One operation. Only checks and counts are answered. -/
def step (l : Ledgers) : Op → Option Answer × Ledgers
  | .check key limit seconds =>
      let (v, ledger) := (l.of key).check l.now limit (span seconds) seconds
      (some (.verdict v), { l with of := update l.of key ledger })
  | .peek key limit seconds =>
      (some (.count ((l.of key).remaining l.now limit (span seconds))), l)
  | .close | .reset | .replace => (none, { l with of := fun _ => .empty })
  | .advance ms => (none, { l with now := l.now + ms })
  | .purge _ | .sweep _ | .sweepEnded => (none, l)

def run (l : Ledgers) : List Op → Ledgers
  | [] => l
  | op :: ops => (l.step op).2.run ops

/-- The answers of a run to those operations that `which` selects. -/
def answers (which : Op → Bool) (l : Ledgers) : List Op → List Answer
  | [] => []
  | op :: ops =>
      (if which op then (l.step op).1.toList else []) ++ (l.step op).2.answers which ops

theorem now_step (l : Ledgers) (op : Op) : (l.step op).2.now = l.now + op.elapsed := by
  cases op with
  | _ => rfl

theorem now_run (l : Ledgers) (ops : List Op) :
    (l.run ops).now = l.now + Swept.elapsed ops := by
  induction ops generalizing l with
  | nil => rfl
  | cons op ops ih =>
      show ((l.step op).2.run ops).now = l.now + (op.elapsed + Swept.elapsed ops)
      rw [ih, now_step, Nat.add_assoc]

-- ============================================ what an answer depends on

/-- Are the ledgers of a key, and the times, the same? -/
structure Alike (key : Key) (l l' : Ledgers) : Prop where
  of : l.of key = l'.of key
  now : l.now = l'.now

theorem Alike.step {key : Key} {l l' : Ledgers} (h : Alike key l l') (op : Op) :
    Alike key (l.step op).2 (l'.step op).2 := by
  cases op with
  | check other limit seconds =>
      refine ⟨?_, h.now⟩
      show update _ other _ key = update _ other _ key
      by_cases e : other = key
      · rw [e, update_self, update_self, h.of, h.now]
      · rw [update_of_ne (Ne.symm e), update_of_ne (Ne.symm e), h.of]
  | close | reset | replace => exact ⟨rfl, h.now⟩
  | advance ms => exact ⟨h.of, congrArg (· + ms) h.now⟩
  | peek | purge | sweep | sweepEnded => exact h

end Ledgers

-- ========================================================= the relation

/-- Windows in memory follow ledgers for windows of `seconds`. -/
structure Swept.Follows (seconds : Nat) (l : Ledgers) (w : Swept) : Prop where
  logs : w.memory.Tracks (span seconds) l.of
  clock : w.memory.now = l.now
  sweepers : ∀ s ∈ w.sweepers, seconds ≤ s.seconds

namespace Swept.Follows

variable {seconds : Nat} {l : Ledgers} {w : Swept}

theorem start (seconds now : Nat) : (Swept.start now).Follows seconds (.start now) :=
  ⟨.start (span seconds) now, rfl, fun s hs => by cases hs⟩

theorem span_le_span {short long : Nat} (le : short ≤ long) : span short ≤ span long := by
  unfold span
  omega

/-- Time passes on both sides; the sweepers that act meanwhile are not
noticed. -/
theorem advance (h : w.Follows seconds l) {ms : Nat} (clock : l.now + ms ≤ maxCount) :
    (w.step (.advance ms)).2.Follows seconds (l.step (.advance ms)).2 := by
  rw [← h.clock] at clock
  have moved := Memory.now_advance clock
  have tracks : (w.memory.advance ms).Tracks (span seconds) l.of :=
    h.logs.at_later (Nat.le_trans (Nat.le_add_right _ ms) (Nat.le_of_eq moved.symm))
  -- the purges come after the time has moved, with windows that are long
  -- enough
  have kept : (passAll ms w.sweepers (w.memory.advance ms)).2.Tracks (span seconds) l.of
      ∧ (passAll ms w.sweepers (w.memory.advance ms)).2.now = (w.memory.advance ms).now :=
    passAll_keeps ms (P := fun m => m.Tracks (span seconds) l.of
        ∧ m.now = (w.memory.advance ms).now)
      (fun s hs m hm => ⟨hm.1.purge (span_le_span (h.sweepers s hs)), hm.2⟩) ⟨tracks, rfl⟩
  refine ⟨kept.1, ?_, fun s hs => ?_⟩
  · show _ = l.now + ms
    rw [← h.clock]
    exact kept.2.trans moved
  · have windows := seconds_passAll ms w.sweepers (w.memory.advance ms)
    have : s.seconds ∈ w.sweepers.map Sweeper.seconds :=
      windows ▸ List.mem_map.2 ⟨s, hs, rfl⟩
    obtain ⟨s', hs', e⟩ := List.mem_map.1 this
    rw [← e]
    exact h.sweepers s' hs'

/-- One operation: the windows follow again. -/
theorem step (h : w.Follows seconds l) {op : Op} (fits : op.Fits seconds)
    (clock : l.now + op.elapsed ≤ maxCount) : (w.step op).2.Follows seconds (l.step op).2 := by
  cases op with
  | check key limit window =>
      obtain rfl : window = seconds := fits
      have logs := h.logs.check key limit
      rw [h.clock] at logs
      exact ⟨logs, h.clock, h.sweepers⟩
  | peek key limit window =>
      obtain rfl : window = seconds := fits
      exact ⟨(h.logs.peek key limit).2, (Memory.now_peek _ _ _ _).trans h.clock, h.sweepers⟩
  | close => exact ⟨.clear _ _, h.clock, h.sweepers⟩
  | reset => exact ⟨.clear _ _, h.clock, h.sweepers⟩
  | purge window => exact ⟨h.logs.purge (span_le_span fits), h.clock, h.sweepers⟩
  | advance ms => exact h.advance clock
  | sweep window =>
      refine ⟨h.logs, h.clock, fun s hs => ?_⟩
      rcases List.mem_append.1 hs with hs | hs
      · exact h.sweepers s hs
      · rw [List.mem_singleton] at hs
        rw [hs]
        exact fits
  | replace =>
      refine ⟨.start _ _, h.clock, fun s hs => ?_⟩
      obtain ⟨s', hs', rfl⟩ := List.mem_map.1 hs
      exact h.sweepers s' hs'
  | sweepEnded => exact h

theorem run (h : w.Follows seconds l) {ops : List Op} (fits : ∀ op ∈ ops, op.Fits seconds)
    (clock : l.now + elapsed ops ≤ maxCount) :
    (w.run ops).2.Follows seconds (l.run ops) := by
  induction ops generalizing w l with
  | nil => exact h
  | cons op ops ih =>
      have time : l.now + (op.elapsed + elapsed ops) ≤ maxCount := clock
      refine ih (h.step (fits op List.mem_cons_self) (by omega))
        (fun o ho => fits o (List.mem_cons_of_mem _ ho)) ?_
      rw [Ledgers.now_step]
      omega

-- ============================================================ answers

/-- Whoever asks gets the ledgers' answer, if the sum fits. -/
theorem answer (h : w.Follows seconds l) {op : Op} (fits : op.Fits seconds)
    (asked : op.asks = true) (sums : ∀ sum ∈ op.sum? w, sum ≤ maxCount) :
    (l.step op).1 = some (w.step op).1 := by
  cases op with
  | check key limit window =>
      obtain rfl : window = seconds := fits
      have verdict : (w.memory.check key limit window).1
          = ((l.of key).check l.now limit (span window) window).1 := by
        rw [Memory.check_eq, (h.logs key).verdict_check sums, h.clock]
      exact congrArg (fun v => some (Answer.verdict v)) verdict.symm
  | peek key limit window =>
      obtain rfl : window = seconds := fits
      have room := (h.logs.peek key limit).1
      rw [h.clock] at room
      exact congrArg (fun n => some (Answer.count n)) room.symm
  | _ => cases asked

/-- A run: whatever is asked on the way gets the ledgers' answers. -/
theorem answers (h : w.Follows seconds l) {ops : List Op}
    (fits : ∀ op ∈ ops, op.Fits seconds) (clock : l.now + elapsed ops ≤ maxCount)
    (sums : ∀ sum ∈ w.sums ops, sum ≤ maxCount) :
    w.answers Op.asks ops = l.answers Op.asks ops := by
  induction ops generalizing w l with
  | nil => rfl
  | cons op ops ih =>
      have time : l.now + (op.elapsed + elapsed ops) ≤ maxCount := clock
      have first := fits op List.mem_cons_self
      rw [answers_cons, Ledgers.answers,
        ih (h.step first (by omega)) (fun o ho => fits o (List.mem_cons_of_mem _ ho))
          (by rw [Ledgers.now_step]; omega) fun sum mem => sums sum (List.mem_append_right _ mem)]
      congr 1
      split
      next asked =>
        rw [h.answer first asked fun sum mem =>
          sums sum (List.mem_append_left _ (Option.mem_toList.2 mem))]
        rfl
      next => rfl

/-- Windows that follow ledgers which are alike on a key answer alike about
it. -/
theorem answer_alike {key : Key} {l' : Ledgers} {w' : Swept} (h : w.Follows seconds l)
    (h' : w'.Follows seconds l') (alike : Ledgers.Alike key l l') {op : Op}
    (fits : op.Fits seconds) (asked : op.asksOf key = true) :
    (w.step op).1 = (w'.step op).1 := by
  have clock : w.memory.now = w'.memory.now := by rw [h.clock, h'.clock, alike.now]
  cases op with
  | check other limit window =>
      obtain rfl : other = key := of_decide_eq_true asked
      obtain rfl : window = seconds := fits
      have tracks := h.logs other
      rw [clock, alike.of] at tracks
      have kept : (w.memory.log other).prune w'.memory.now (span window)
          = (w'.memory.log other).prune w'.memory.now (span window) :=
        congrArg Window.Log.mk (tracks.records_prune.trans (h'.logs other).records_prune.symm)
      have same : (w.memory.check other limit window).1
          = (w'.memory.check other limit window).1 := by
        rw [Memory.check_eq, Memory.check_eq, clock, Window.Log.check_congr kept]
      exact congrArg Answer.verdict same
  | peek other limit window =>
      obtain rfl : other = key := of_decide_eq_true asked
      obtain rfl : window = seconds := fits
      have same : (w.memory.peek other limit window).1 = (w'.memory.peek other limit window).1 := by
        rw [(h.logs.peek other limit).1, (h'.logs.peek other limit).1, alike.of, clock]
      exact congrArg Answer.count same
  | _ => cases asked

theorem answers_alike {key : Key} {l' : Ledgers} {w' : Swept} (h : w.Follows seconds l)
    (h' : w'.Follows seconds l') (alike : Ledgers.Alike key l l') {ops : List Op}
    (fits : ∀ op ∈ ops, op.Fits seconds) (clock : l.now + elapsed ops ≤ maxCount) :
    w.answers (Op.asksOf key) ops = w'.answers (Op.asksOf key) ops := by
  induction ops generalizing w w' l l' with
  | nil => rfl
  | cons op ops ih =>
      have time : l.now + (op.elapsed + elapsed ops) ≤ maxCount := clock
      have first := fits op List.mem_cons_self
      have next := h.step first (by omega)
      have next' := h'.step first (by rw [← alike.now]; omega)
      rw [answers_cons, answers_cons,
        ih next next' (alike.step op) (fun o ho => fits o (List.mem_cons_of_mem _ ho))
          (by rw [Ledgers.now_step]; omega)]
      congr 1
      split
      next asked => rw [h.answer_alike h' alike first asked]
      next => rfl

/-- A silent operation leaves the ledger of the key as it is. -/
theorem alike_of_silent {key : Key} {op : Op} (h : w.Follows seconds l)
    (fits : op.Fits seconds) (silent : op.Silent key (w.step op).1) :
    Ledgers.Alike key (l.step op).2 l := by
  cases op with
  | check other limit window =>
      obtain rfl : window = seconds := fits
      refine ⟨?_, rfl⟩
      show update l.of other _ key = l.of key
      by_cases e : other = key
      · obtain ⟨wait, denied⟩ := silent e
        have refused : (w.memory.check other limit window).1 = .denied wait :=
          Answer.verdict.inj denied
        have allowed := (h.logs other).allowed_check limit
        rw [← Memory.check_eq, refused, h.clock] at allowed
        have refusal := Ledger.check_of_not_allowed allowed.symm
        rw [← e, update_self]
        exact congrArg Prod.snd refusal
      · exact update_of_ne (Ne.symm e) _ _
  | peek | purge | sweep | sweepEnded => exact ⟨rfl, rfl⟩
  | close | reset | replace | advance => exact absurd silent id

end Swept.Follows

-- =========================================================== the theorem

/-- Whatever is asked of windows in memory, with any keys and limits and
one length of window, is answered as by ledgers that never drop an
admission, if 64 bits hold the moments that refusals work out. And what is
silent about a key, such as a count, a purge, a refusal or a call on
another key, changes no later answer about it. -/
theorem Swept.answers_eq_ledgers {seconds start : Nat} {ops : List Op}
    (fits : ∀ op ∈ ops, op.Fits seconds) (clock : start + elapsed ops ≤ maxCount) :
    ((∀ sum ∈ (Swept.start start).sums ops, sum ≤ maxCount) →
      (Swept.start start).answers Op.asks ops = (Ledgers.start start).answers Op.asks ops)
      ∧ ∀ (key : Key) (before after : List Op) (op : Op), ops = before ++ op :: after →
          let w := ((Swept.start start).run before).2
          op.Silent key (w.step op).1 →
            (w.step op).2.answers (Op.asksOf key) after
              = w.answers (Op.asksOf key) after := by
  have begun : (Swept.start start).Follows seconds (.start start) := .start seconds start
  refine ⟨begun.answers fits clock, fun key before after op split => ?_⟩
  intro w silent
  subst split
  rw [elapsed_append] at clock
  have time : start + (elapsed before + (op.elapsed + elapsed after)) ≤ maxCount := clock
  have follows : w.Follows seconds ((Ledgers.start start).run before) := by
    refine begun.run (fun o ho => fits o (List.mem_append_left _ ho)) ?_
    show start + elapsed before ≤ maxCount
    omega
  have now : ((Ledgers.start start).run before).now = start + elapsed before :=
    Ledgers.now_run _ _
  have first : op.Fits seconds := fits op (by simp)
  have next := follows.step first (by rw [now]; omega)
  exact next.answers_alike follows (follows.alike_of_silent first silent)
    (fun o ho => fits o (by simp [ho])) (by rw [Ledgers.now_step, now]; omega)

/-- With a window of one second and a sweeper: a request that is refused
does not change what is answered after it. -/
theorem Swept.answers_eq_ledgers_of_a_second :
    let key : Key := ⟨"k"⟩
    let before : List Op := [.sweep 1, .check key 1 1, .advance 999]
    let refused : Op := .check key 1 1
    let after : List Op := [.peek key 1 1, .advance 1, .check key 1 1]
    let ops := before ++ refused :: after
    let w := ((Swept.start 0).run before).2
    (Swept.start 0).sums ops = [1000]
      ∧ (Ledgers.start 0).answers Op.asks ops
        = [.verdict (.admitted 0), .verdict (.denied 1), .count 0, .verdict (.admitted 0)]
      ∧ (Swept.start 0).answers Op.asks ops = (Ledgers.start 0).answers Op.asks ops
      ∧ (w.step refused).2.answers (Op.asksOf key) after = w.answers (Op.asksOf key) after := by
  intro key before refused after ops w
  have fits : ∀ op ∈ ops, op.Fits 1 := by simp [ops, before, refused, after, Op.Fits]
  have same := Swept.answers_eq_ledgers fits (show 0 + elapsed ops ≤ maxCount by decide)
  have sums : (Swept.start 0).sums ops = [1000] := by decide +kernel
  refine ⟨sums, by decide +kernel, same.1 ?_, same.2 key before after refused rfl fun _ => ⟨1, ?_⟩⟩
  · rw [sums]
    decide
  · decide +kernel

end TenantGate.Limit
