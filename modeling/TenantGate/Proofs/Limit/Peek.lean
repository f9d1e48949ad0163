/-
A count of the room is exact: so many requests will be admitted, and no
more.

# The room

A count and a check come to their answers in two ways: the one subtracts,
the other compares, and records. What ties them is that the record of an
admission is young, so it is not pruned while the time stays the same, nor
is any record behind a young one. Nothing here needs a log that stands in
order, or one that holds no more than the limit. So an admission takes one
off what a count would find, a denial leaves nothing to find, and a count
leaves the next one as it is (`Spends`, `Log.remaining_remaining`).

# Runs

`Swept.step_room` says of one operation what it does to the room of a key:
a request on the key spends, and whatever else is asked, of this key or of
others, does not touch it. A run of spending answers is a countdown.
-/
import Mathlib.Data.List.DropRight
import TenantGate.Proofs.Limit.Ledgers

namespace TenantGate.Window

variable {now limit seconds : Nat}

/-- A verdict where there is room for some more requests, and the room
after it. -/
inductive Spends : Nat → Verdict → Nat → Prop
  | admitted (room : Nat) : Spends (room + 1) (.admitted room) room
  | denied (wait : Nat) : Spends 0 (.denied wait) 0

theorem Spends.sub {before after : Nat} {v : Verdict} (h : Spends before v after) (n : Nat) :
    after - n = before - (n + 1) := by
  cases h with
  | admitted room => exact (Nat.add_sub_add_right after 1 n).symm
  | denied wait => rw [Nat.zero_sub, Nat.zero_sub]

theorem span_pos (pos : 0 < seconds) : 0 < span seconds := by
  unfold span maxCount
  omega

namespace Log

theorem prune_prune (now span : Nat) (log : Log) :
    (log.prune now span).prune now span = log.prune now span :=
  congrArg Log.mk (List.dropWhile_idempotent _ _)

/-- A record of the present stays when the log is pruned again, and so do
those before it. -/
theorem prune_append {span : Nat} (pos : 0 < span) (log : Log) :
    (Log.mk ((log.prune now span).records ++ [now])).prune now span
      = ⟨(log.prune now span).records ++ [now]⟩ := by
  have young : ¬ span ≤ now - now := by omega
  have pruned := congrArg Log.records (prune_prune now span log)
  unfold prune at pruned ⊢
  dsimp only at pruned ⊢
  rw [List.dropWhile_append, pruned]
  split
  next none_left =>
    rw [List.isEmpty_iff.1 none_left, List.dropWhile_cons_of_neg (by simpa using young)]
    rfl
  next => rfl

theorem remaining_prune (now limit seconds : Nat) (log : Log) :
    ((log.prune now (span seconds)).remaining now limit seconds).1
      = (log.remaining now limit seconds).1 := by
  unfold remaining
  dsimp only
  rw [prune_prune]

/-- A request spends what a count would have found. -/
theorem spends_check (pos : 0 < seconds) (log : Log) :
    Spends (log.remaining now limit seconds).1 (log.check now limit seconds).1
      ((log.check now limit seconds).2.remaining now limit seconds).1 := by
  unfold check
  dsimp only
  split
  next room =>
    have before : (log.remaining now limit seconds).1
        = limit - (log.prune now (span seconds)).size - 1 + 1 := by
      show limit - (log.prune now (span seconds)).size = _
      omega
    have after : ((Log.mk ((log.prune now (span seconds)).records ++ [now])).remaining
        now limit seconds).1 = limit - (log.prune now (span seconds)).size - 1 := by
      show limit - ((Log.mk _).prune now (span seconds)).size = _
      rw [prune_append (span_pos pos), size, List.length_append, List.length_singleton,
        Nat.sub_add_eq]
      rfl
    rw [before, after]
    exact .admitted _
  next full =>
    have none : (log.remaining now limit seconds).1 = 0 := by
      show limit - (log.prune now (span seconds)).size = 0
      omega
    rw [remaining_prune, none]
    exact .denied _

end Log

end TenantGate.Window

namespace TenantGate.Limit

open Window (Spends Verdict span)

namespace Swept

/-- Is it a verdict that admits? -/
def Answer.admits : Answer → Bool
  | verdict v => v.allowed
  | _ => false

namespace Op

/-- Is it a request on a key? -/
def checksOf (key : Key) : Op → Bool
  | check other .. => other = key
  | _ => false

/-- A request or a count; on `key`, with this limit and this window. -/
def Agrees (key : Key) (limit seconds : Nat) : Op → Prop
  | check other most window | peek other most window =>
      other = key → most = limit ∧ window = seconds
  | _ => False

end Op

/-- What a count would find. -/
def room (key : Key) (limit seconds : Nat) (w : Swept) : Nat :=
  ((w.memory.log key).remaining w.memory.now limit seconds).1

variable {key : Key} {limit seconds : Nat}

theorem step_peek (key : Key) (limit seconds : Nat) (w : Swept) :
    (w.step (.peek key limit seconds)).1 = .count (w.room key limit seconds) :=
  congrArg Answer.count (w.memory.peek_eq key limit seconds)

/-- A request on the key spends; nothing else touches its room. -/
theorem step_room (pos : 0 < seconds) {op : Op} (agrees : op.Agrees key limit seconds)
    (w : Swept) :
    if op.checksOf key then
      ∃ v, (w.step op).1 = .verdict v
        ∧ Spends (w.room key limit seconds) v ((w.step op).2.room key limit seconds)
    else (w.step op).2.room key limit seconds = w.room key limit seconds := by
  cases op with
  | check other most window =>
      have log := Memory.log_check other key most window w.memory
      by_cases e : other = key
      · obtain ⟨rfl, rfl⟩ := agrees e
        subst e
        rw [if_pos rfl] at log
        rw [if_pos (by simp [Op.checksOf])]
        refine ⟨_, rfl, ?_⟩
        unfold room step
        dsimp only
        rw [log]
        exact Window.Log.spends_check pos _
      · rw [if_neg (Ne.symm e)] at log
        rw [if_neg (by simpa [Op.checksOf] using e)]
        unfold room step
        dsimp only
        rw [log]
        rfl
  | peek other most window =>
      have log := Memory.log_peek other key most window w.memory
      have now := Memory.now_peek other most window w.memory
      rw [if_neg nofun]
      unfold room step
      dsimp only
      rw [log, now]
      split
      next e =>
        obtain ⟨rfl, rfl⟩ := agrees e.symm
        rw [e]
        exact Window.Log.remaining_prune ..
      next => rfl
  | _ => exact absurd agrees id

-- ================================================================ runs

/-- The answers to requests where there is room for `room` of them: as many
admissions as there can be, each with what remains, and then denials. -/
def Countdown (room : Nat) (answers : List Answer) : Prop :=
  ∃ waits : List Nat, waits.length = answers.length - room
    ∧ answers = ((List.range room).reverse.take answers.length).map
          (fun left => .verdict (.admitted left))
        ++ waits.map fun wait => .verdict (.denied wait)

namespace Countdown

variable {before after : Nat} {v : Verdict} {answers : List Answer}

theorem nil (room : Nat) : Countdown room [] := ⟨[], (Nat.zero_sub room).symm, rfl⟩

theorem cons (spends : Spends before v after) (h : Countdown after answers) :
    Countdown before (.verdict v :: answers) := by
  obtain ⟨waits, length, split⟩ := h
  cases spends with
  | admitted room =>
      refine ⟨waits, ?_, ?_⟩
      · rw [length, List.length_cons, Nat.add_sub_add_right]
      · rw [List.length_cons, List.range_succ, List.reverse_append]
        exact congrArg (_ :: ·) split
  | denied wait =>
      refine ⟨wait :: waits, ?_, ?_⟩
      · rw [List.length_cons, length]
        rfl
      · rw [List.range_zero, List.reverse_nil, List.take_nil] at split ⊢
        exact congrArg (_ :: ·) split

/-- So many are admitted as there are requests, or as there is room for. -/
theorem countP_admits {room : Nat} (h : Countdown room answers) :
    answers.countP Answer.admits = min answers.length room := by
  obtain ⟨waits, -, split⟩ := h
  have admitted : (Answer.admits ∘ fun left => Answer.verdict (.admitted left)) = fun _ => true :=
    rfl
  have denied : (Answer.admits ∘ fun wait => Answer.verdict (.denied wait)) = fun _ => false :=
    rfl
  rw [congrArg (List.countP _) split, List.countP_append, List.countP_map, List.countP_map,
    admitted, denied, List.countP_true, List.countP_false, List.length_take, List.length_reverse,
    List.length_range]
  rfl

end Countdown

/-- While the time stays the same, the answers to the requests on a key
count its room down. -/
theorem countdown_answers (pos : 0 < seconds) {ops : List Op}
    (agree : ∀ op ∈ ops, op.Agrees key limit seconds) (w : Swept) :
    (w.answers (Op.checksOf key) ops).length = ops.countP (Op.checksOf key)
      ∧ Countdown (w.room key limit seconds) (w.answers (Op.checksOf key) ops)
      ∧ (w.run ops).2.room key limit seconds
        = w.room key limit seconds - ops.countP (Op.checksOf key) := by
  induction ops generalizing w with
  | nil => exact ⟨rfl, .nil _, rfl⟩
  | cons op ops ih =>
      have step := step_room pos (agree op List.mem_cons_self) w
      obtain ⟨length, countdown, last⟩ :=
        ih (fun o ho => agree o (List.mem_cons_of_mem _ ho)) (w.step op).2
      have last : (w.run (op :: ops)).2.room key limit seconds = _ := last
      rw [last, answers_cons, List.countP_cons]
      split at step
      next asked =>
        obtain ⟨v, answer, spends⟩ := step
        rw [if_pos asked, if_pos asked, answer]
        exact ⟨congrArg (· + 1) length, .cons spends countdown, spends.sub _⟩
      next asked =>
        rw [if_neg asked, if_neg asked, ← step]
        exact ⟨length, countdown, rfl⟩

-- ============================================================ the theorem

/-- A count is exact, whatever the logs hold: of any requests on its key
with the same limit and window, made while the time stays the same and
among whatever counts and whatever calls on other keys, so many are
admitted as it said, the first ones, with one less remaining each time.
The others are denied, and a later count is less by those admitted. -/
theorem answers_of_peek (w : Swept) (key : Key) (limit : Nat) {seconds : Nat}
    (pos : 0 < seconds) :
    ∃ r, (w.step (.peek key limit seconds)).1 = .count r
      ∧ ∀ ops, (∀ op ∈ ops, op.Agrees key limit seconds) →
          let counted := (w.step (.peek key limit seconds)).2
          let n := ops.countP (Op.checksOf key)
          let answers := counted.answers (Op.checksOf key) ops
          let k := answers.countP Answer.admits
          k = min n r
            ∧ (∃ waits : List Nat, waits.length = n - r
              ∧ answers = ((List.range r).reverse.take n).map
                    (fun left => .verdict (.admitted left))
                  ++ waits.map fun wait => .verdict (.denied wait))
            ∧ ((counted.run ops).2.step (.peek key limit seconds)).1 = .count (r - k) := by
  refine ⟨w.room key limit seconds, step_peek key limit seconds w, fun ops agree => ?_⟩
  intro counted n answers k
  have same : counted.room key limit seconds = w.room key limit seconds := by
    have agrees : (Op.peek key limit seconds).Agrees key limit seconds := fun _ => ⟨rfl, rfl⟩
    have step := step_room pos agrees w
    rwa [if_neg nofun] at step
  obtain ⟨length, countdown, last⟩ := countdown_answers pos agree counted
  rw [same] at countdown last
  have admitted : k = min n (w.room key limit seconds) :=
    countdown.countP_admits.trans (congrArg (min · _) length)
  unfold Countdown at countdown
  rw [length] at countdown
  refine ⟨admitted, countdown, ?_⟩
  rw [step_peek, last, admitted]
  congr 1
  omega

/-- The log of the key holds four records that are out of order, two of
them old, and the window is a second: at 5900 there is room for two under
a limit of six, and none under a limit of three. -/
theorem answers_of_peek_six_and_three :
    let key : Key := ⟨"k"⟩
    let w : Swept := ⟨⟨(∅ : Table Key Window.Log).put key ⟨[5000, 0, 5500, 100]⟩, 5900⟩, []⟩
    let ops : List Op := [.check key 6 1, .check ⟨"l"⟩ 1 9, .peek key 6 1, .check key 6 1,
      .check key 6 1]
    let counted := (w.step (.peek key 6 1)).2
    (w.step (.peek key 6 1)).1 = .count 2
      ∧ (∀ op ∈ ops, op.Agrees key 6 1)
      ∧ (counted.answers (Op.checksOf key) ops).countP Answer.admits = 2
      ∧ ((counted.run ops).2.step (.peek key 6 1)).1 = .count 0
      ∧ (w.step (.peek key 3 1)).1 = .count 0 := by
  intro key w ops counted
  have agree : ∀ op ∈ ops, op.Agrees key 6 1 := by simp [ops, Op.Agrees, key]
  obtain ⟨r, count, kept⟩ := answers_of_peek w key 6 Nat.one_pos
  have two : (w.step (.peek key 6 1)).1 = .count 2 := by decide +kernel
  obtain rfl : 2 = r := Answer.count.inj (two.symm.trans count)
  obtain ⟨admitted, -, last⟩ := kept ops agree
  refine ⟨two, agree, admitted, ?_, by decide +kernel⟩
  rw [admitted] at last
  exact last

end Swept

end TenantGate.Limit
