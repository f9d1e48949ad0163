/-
How long a key of the shared store lives.

# The runs

The scripts run on any keys with any limits, and time passes (`Op`). Of a
run two things are kept: the sets that it leaves (`after`), and which
requests it admitted and when (`admissions`). The latter are ledgers, one
a key (`timesOf`), and the sets track them all the way (`Held`).

# The lease

What is proved comes down to the lease of a row: it ends two windows
after its last score. An admission is the only thing that writes a lease
(`unmoved`, `renewed`). Since the scores stand in order and pruning takes
them from the front, the last score goes last, so the lease is that of
the newest admission as long as there is a row at all. Hence no key stays
behind when its admissions are two windows old (`gone`), and none ends
before (`kept`), which is long after its scores have ceased to count
(`counted`).
-/
import TenantGate.Proofs.Store.Scripts

namespace TenantGate.Store

open Function (update update_of_ne update_self)
open Limit (Key)
open Window (Ledger)

-- ================================================ runs of the scripts

/-- Does a reply say that a request is admitted? -/
def Reply.admits : Reply → Bool
  | .array (.int n :: _) => n = 1
  | _ => false

namespace Script

/-- What the sets go through: scripts on any keys, and time. -/
inductive Op where
  | consume (key : Key) (limit : Nat)
  | remaining (key : Key) (limit : Nat)
  | advance (micros : Nat)
deriving DecidableEq

namespace Op

/-- The sets after an operation. -/
def take (seconds : Nat) (s : SortedSets) : Op → SortedSets
  | consume key limit => (Script.consume key.text limit seconds s).2
  | remaining key limit => (Script.remaining key.text limit seconds s).2
  | advance micros => s.advance micros

/-- The key on which a request is admitted, if one is. -/
def admits (seconds : Nat) (s : SortedSets) : Op → Option Key
  | consume key limit =>
      if (Script.consume key.text limit seconds s).1.admits then some key else none
  | _ => none

end Op

/-- The sets after a run. -/
def after (seconds : Nat) (s : SortedSets) : List Op → SortedSets
  | [] => s
  | op :: ops => after seconds (op.take seconds s) ops

/-- The requests that a run admits: the keys, with the times. -/
def admissions (seconds : Nat) (s : SortedSets) : List Op → List (Key × Nat)
  | [] => []
  | op :: ops =>
      (op.admits seconds s).toList.map (·, s.now) ++ admissions seconds (op.take seconds s) ops

/-- The times of the admissions on a key. -/
def timesOf (key : Key) (admitted : List (Key × Nat)) : List Nat :=
  admitted.filterMap fun a => if a.1 = key then some a.2 else none

theorem mem_timesOf {key : Key} {admitted : List (Key × Nat)} {t : Nat} :
    t ∈ timesOf key admitted ↔ (key, t) ∈ admitted := by
  simp [timesOf, List.mem_filterMap]

/-- One more admission is booked on its own key. -/
theorem timesOf_append (key other : Key) (admitted : List (Key × Nat)) (now : Nat) :
    timesOf other (admitted ++ [(key, now)])
      = timesOf other admitted ++ if other = key then [now] else [] := by
  unfold timesOf
  rw [List.filterMap_append]
  refine congrArg (_ ++ ·) ?_
  by_cases e : other = key
  · rw [if_pos e]
    exact List.filterMap_cons_some (if_pos e.symm)
  · rw [if_neg e]
    exact List.filterMap_cons_none (if_neg (Ne.symm e))

end Script

-- ========================================================= what is seen

namespace SortedSets

variable {s : SortedSets} {key name : String} {set : ScoreSet}

theorem get?_visible (s : SortedSets) (name : String) : s.visible.get? name = s.get? name := by
  show (Table.filterMap _ s.sets).get? name = (s.sets.get? name).filter _
  rw [Table.get?_filterMap]
  cases s.sets.get? name with
  | none => rfl
  | some set => rfl

theorem get?_eq_some_iff :
    s.get? name = some set ↔ s.row? name = some set ∧ set.alive s.now = true := by
  rw [get?_eq, Option.filter_eq_some_iff]

theorem scores_of_seen (seen : s.get? name = some set) : s.scores name = set.scores := by
  unfold scores
  rw [seen]
  rfl

theorem seen_of_mem_scores {t : Nat} (mem : t ∈ s.scores name) :
    ∃ set, s.get? name = some set := by
  unfold scores at mem
  cases seen : s.get? name with
  | none =>
      rw [seen] at mem
      cases mem
  | some set => exact ⟨set, rfl⟩

/-- Dropping scores makes no key and leaves the end of each. -/
theorem seen_removeUpTo {bound : Int}
    (seen : (s.removeUpTo key bound).get? name = some set) :
    ∃ old, s.get? name = some old ∧ set.expireAt = old.expireAt := by
  rw [get?_eq_some_iff, row_removeUpTo, now_removeUpTo] at seen
  obtain ⟨row, alive⟩ := seen
  by_cases e : name = key
  · rw [if_pos e] at row
    split at row
    next => cases row
    next some_left =>
      obtain ⟨old, old_row, rfl⟩ := Option.map_eq_some_iff.1 row
      obtain ⟨t, mem⟩ := List.exists_mem_of_ne_nil _ some_left
      obtain ⟨old', seen⟩ := seen_of_mem_scores (List.mem_of_mem_filter mem)
      have := (get?_eq_some_iff.1 seen).1
      rw [old_row, Option.some.injEq] at this
      exact ⟨old, by rw [e, seen, this], rfl⟩
  · rw [if_neg e] at row
    exact ⟨set, get?_eq_some_iff.2 ⟨row, alive⟩, rfl⟩

theorem scores_removeUpTo_sublist (key name : String) (bound : Int) (s : SortedSets) :
    ((s.removeUpTo key bound).scores name).Sublist (s.scores name) := by
  by_cases e : name = key
  · rw [e, scores_removeUpTo]
    exact List.filter_sublist
  · rw [scores_congr ((row_removeUpTo _ _ _ _).trans (if_neg e)) (now_removeUpTo _ _ _)]

/-- A recorded score is seen, last if none is greater, and ends the key
anew. -/
theorem seen_record {score seconds : Nat} (pos : 0 < seconds)
    (last : ∀ t ∈ s.scores key, t ≤ score) :
    (s.record key score seconds).get? key
      = some ⟨s.scores key ++ [score], some (s.now + seconds * 1000)⟩ := by
  have row := row_record key key score seconds s
  rw [if_pos rfl, if_neg (Nat.ne_of_gt pos), ScoreSet.insert_of_le last] at row
  refine get?_eq_some_iff.2 ⟨row, ?_⟩
  rw [now_record, ScoreSet.alive_iff rfl]
  exact ⟨List.append_ne_nil_of_right_ne_nil _ (List.cons_ne_nil _ _), by omega⟩

end SortedSets

namespace SortedSets.Tracks

variable {seconds : Nat} {ledgers : Key → Ledger} {s : SortedSets} {name : String}
  {set : ScoreSet}

/-- A key that is seen ends two windows after its newest score. -/
theorem newest_of_seen (h : Tracks seconds ledgers s) (seen : s.get? name = some set) :
    ∃ newest ∈ set.scores, (∀ t ∈ set.scores, t ≤ newest)
      ∧ set.expireAt = some (newest + 2 * (seconds * 1000))
      ∧ s.now < newest + 2 * (seconds * 1000) := by
  obtain ⟨row, alive⟩ := get?_eq_some_iff.1 seen
  have ordered := (h.logs ⟨name⟩).ordered
  rw [scores_of_seen seen] at ordered
  obtain ⟨newest, mem, most, end'⟩ := (h.leases name set row).newest ordered
  exact ⟨newest, mem, most, end', ((ScoreSet.alive_iff end').1 alive).2⟩

end SortedSets.Tracks

-- ================================================= what a script can do

namespace Script

/-- All that a request can do: it finds room, and is recorded, or it does
not, and is not. -/
theorem consume_cases (key : String) (limit seconds : Nat) (s : SortedSets) :
    let kept := expel key seconds s
    ((consume key limit seconds s).1.admits = true ∧ (kept.scores key).length < limit
        ∧ (consume key limit seconds s).2 = kept.record key kept.now (seconds * 2))
      ∨ (consume key limit seconds s).1.admits = false
        ∧ (consume key limit seconds s).2 = kept := by
  unfold consume
  dsimp only
  split
  next room => exact .inl ⟨rfl, room, rfl⟩
  next => exact .inr ⟨rfl, rfl⟩

/-- What the sets of a run are held to: they track the ledgers of its
admissions, and what is seen of a key is within a limit that was asked
for on it. -/
structure Held (seconds : Nat) (done : List Op) (admitted : List (Key × Nat))
    (s : SortedSets) : Prop where
  tracks : s.Tracks seconds fun key => ⟨timesOf key admitted⟩
  few : ∀ key, s.scores key.text = []
    ∨ ∃ limit, Op.consume key limit ∈ done ∧ (s.scores key.text).length ≤ limit

namespace Held

variable {seconds : Nat} {done : List Op} {admitted : List (Key × Nat)} {s : SortedSets}

theorem start (seconds micros : Nat) : Held seconds [] [] (SortedSets.start micros) :=
  ⟨.start seconds micros, fun _ => .inl rfl⟩

theorem more (h : Held seconds done admitted s) (op : Op) :
    Held seconds (done ++ [op]) admitted s := by
  refine ⟨h.tracks, fun key => (h.few key).imp_right ?_⟩
  rintro ⟨limit, asked, few⟩
  exact ⟨limit, List.mem_append_left _ asked, few⟩

theorem fewer (h : Held seconds done admitted s) {s' : SortedSets}
    (tracks : s'.Tracks seconds fun key => ⟨timesOf key admitted⟩)
    (sub : ∀ key : Key, (s'.scores key.text).Sublist (s.scores key.text)) :
    Held seconds done admitted s' := by
  refine ⟨tracks, fun key => ?_⟩
  rcases h.few key with none_left | ⟨limit, asked, few⟩
  · have none_left' := sub key
    rw [none_left] at none_left'
    exact .inl (List.sublist_nil.1 none_left')
  · exact .inr ⟨limit, asked, Nat.le_trans (sub key).length_le few⟩

theorem expel (h : Held seconds done admitted s) (key : Key) :
    Held seconds done admitted (Script.expel key.text seconds s) :=
  h.fewer (h.tracks.expel key) fun _ => SortedSets.scores_removeUpTo_sublist _ _ _ _

/-- What is recorded is booked, and within the limit that it was asked for
with. -/
theorem record (h : Held seconds done admitted s) {key : Key} {limit : Nat}
    (room : (s.scores key.text).length < limit) :
    Held seconds (done ++ [.consume key limit]) (admitted ++ [(key, s.now)])
      (s.record key.text s.now (seconds * 2)) := by
  have booked : update (fun key => (⟨timesOf key admitted⟩ : Ledger)) key
        ⟨timesOf key admitted ++ [s.now]⟩
      = fun other => ⟨timesOf other (admitted ++ [(key, s.now)])⟩ := by
    funext other
    rw [timesOf_append]
    by_cases e : other = key
    · rw [e, update_self, if_pos rfl]
    · rw [update_of_ne e, if_neg e, List.append_nil]
  refine ⟨booked ▸ h.tracks.record key, fun other => ?_⟩
  by_cases e : other = key
  · have past : ∀ t ∈ s.scores key.text, t ≤ s.now := fun t ht =>
      (h.tracks.logs key).upTo.past t ((h.tracks.logs key).subset ht)
    rw [e, SortedSets.scores_record past]
    split
    next => exact .inl rfl
    next =>
      refine .inr ⟨limit, List.mem_append_right _ (List.mem_singleton_self _), ?_⟩
      rw [List.length_append, List.length_singleton]
      exact room
  · have text : other.text ≠ key.text := fun t => e (congrArg Key.mk t)
    rw [SortedSets.scores_congr ((SortedSets.row_record _ _ _ _ _).trans (if_neg text))
      (SortedSets.now_record _ _ _ _)]
    exact (h.more _).few other

/-- One operation, and what it admits. -/
theorem step (h : Held seconds done admitted s) (op : Op) :
    Held seconds (done ++ [op])
      (admitted ++ (op.admits seconds s).toList.map (·, s.now)) (op.take seconds s) := by
  cases op with
  | consume key limit =>
      unfold Op.admits Op.take
      dsimp only
      rcases consume_cases key.text limit seconds s with ⟨told, room, left⟩ | ⟨told, left⟩
      · rw [if_pos told, left]
        have now := SortedSets.now_expel key.text seconds s
        have recorded := (h.expel key).record room
        rw [now] at recorded ⊢
        exact recorded
      · rw [if_neg (by rw [told]; nofun), left]
        exact (List.append_nil admitted).symm ▸ (h.expel key).more _
  | remaining key limit =>
      exact (List.append_nil admitted).symm ▸ (h.expel key).more _
  | advance micros =>
      have fewer : Held seconds done admitted (s.advance micros) := by
        refine h.fewer (h.tracks.advance micros) fun key => ?_
        rcases h.tracks.scores_advance micros key.text with same | ⟨lapsed, -⟩
        · rw [same]
        · rw [lapsed]
          exact List.nil_sublist _
      exact (List.append_nil admitted).symm ▸ fewer.more _

theorem run (h : Held seconds done admitted s) (ops : List Op) :
    Held seconds (done ++ ops) (admitted ++ admissions seconds s ops) (after seconds s ops) := by
  induction ops generalizing done admitted s with
  | nil => exact (List.append_nil done).symm ▸ (List.append_nil admitted).symm ▸ h
  | cons op ops ih =>
      have next := ih (h.step op)
      rw [List.append_assoc, List.append_assoc] at next
      exact next

end Held

-- ============================================================ lifetimes

/-- What holds of the keys of a store when these operations are done and
have left the sets `s`, and these requests were admitted. A window has
`seconds * 1000` milliseconds. -/
structure Lifetimes (seconds : Nat) (done : List Op) (admitted : List (Key × Nat))
    (s : SortedSets) : Prop where
  /-- A key that there is holds something, and no more than a limit that
  it was used with. -/
  filled : ∀ key set, s.visible.get? key.text = some set →
    set.scores ≠ [] ∧ ∃ limit, Op.consume key limit ∈ done ∧ set.scores.length ≤ limit
  /-- It has an end, two windows after its newest score. -/
  ends : ∀ key : Key, ∀ set, s.visible.get? key.text = some set →
    ∃ newest ∈ set.scores, (∀ t ∈ set.scores, t ≤ newest)
      ∧ set.expireAt = some (newest + 2 * (seconds * 1000))
  /-- What admits nothing makes no key and puts off no end. -/
  unmoved : ∀ op : Op, op.admits seconds s = none →
    ∀ key : Key, ∀ set, (op.take seconds s).visible.get? key.text = some set →
      ∃ old, s.visible.get? key.text = some old ∧ set.expireAt = old.expireAt
  /-- An admission leaves a key that ends two windows from now. -/
  renewed : ∀ op : Op, ∀ key, op.admits seconds s = some key →
    ∃ set, (op.take seconds s).visible.get? key.text = some set
      ∧ s.now ∈ set.scores ∧ set.expireAt = some (s.now + 2 * (seconds * 1000))
  /-- The end of a key takes no score that is younger than two windows. -/
  kept : ∀ micros, ∀ key : Key,
    (∃ t ∈ s.scores key.text, (s.advance micros).now < t + 2 * (seconds * 1000)) →
      (s.advance micros).scores key.text = s.scores key.text
  /-- All admissions that are younger than a window are there. -/
  counted : ∀ key : Key,
    (s.scores key.text).filter (fun t => s.now < t + seconds * 1000)
      = (timesOf key admitted).filter fun t => s.now < t + seconds * 1000
  /-- A key whose admissions are two windows old is gone. -/
  gone : ∀ key : Key, (∀ t, (key, t) ∈ admitted → t + 2 * (seconds * 1000) ≤ s.now) →
    s.visible.get? key.text = none

namespace Held

variable {seconds : Nat} {done : List Op} {admitted : List (Key × Nat)} {s : SortedSets}
  {key : Key} {set : ScoreSet}

theorem filled (h : Held seconds done admitted s) (seen : s.get? key.text = some set) :
    set.scores ≠ [] ∧ ∃ limit, Op.consume key limit ∈ done ∧ set.scores.length ≤ limit := by
  obtain ⟨newest, mem, -⟩ := h.tracks.newest_of_seen seen
  have filled := List.ne_nil_of_mem mem
  have few := h.few key
  rw [SortedSets.scores_of_seen seen] at few
  exact ⟨filled, few.resolve_left filled⟩

theorem unmoved (h : Held seconds done admitted s) {op : Op}
    (refused : op.admits seconds s = none) (seen : (op.take seconds s).get? key.text = some set) :
    ∃ old, s.get? key.text = some old ∧ set.expireAt = old.expireAt := by
  cases op with
  | consume other limit =>
      unfold Op.admits Op.take at *
      dsimp only at refused seen
      rcases consume_cases other.text limit seconds s with ⟨told, -, -⟩ | ⟨-, left⟩
      · rw [if_pos told] at refused
        cases refused
      · rw [left] at seen
        exact SortedSets.seen_removeUpTo seen
  | remaining other limit => exact SortedSets.seen_removeUpTo seen
  | advance micros =>
      obtain ⟨row, alive⟩ := SortedSets.get?_eq_some_iff.1 seen
      have leased := h.tracks.leases _ _ row
      have le : s.now ≤ (s.advance micros).now :=
        Nat.div_le_div_right (Nat.le_add_right s.micros micros)
      exact ⟨set, SortedSets.get?_eq_some_iff.2 ⟨row, leased.alive_of_later le alive⟩, rfl⟩

theorem renewed (h : Held seconds done admitted s) (pos : 0 < seconds) {op : Op}
    (told : op.admits seconds s = some key) :
    ∃ set, (op.take seconds s).get? key.text = some set
      ∧ s.now ∈ set.scores ∧ set.expireAt = some (s.now + 2 * (seconds * 1000)) := by
  cases op with
  | consume other limit =>
      unfold Op.admits at told
      dsimp only at told
      rcases consume_cases other.text limit seconds s with ⟨allowed, -, left⟩ | ⟨refused, -⟩
      · rw [if_pos allowed] at told
        obtain rfl := Option.some.inj told
        have logs := (h.expel other).tracks.logs other
        have past : ∀ t ∈ (Script.expel other.text seconds s).scores other.text,
            t ≤ (Script.expel other.text seconds s).now :=
          fun t ht => logs.upTo.past t (logs.subset ht)
        have seen := SortedSets.seen_record (Nat.mul_pos pos Nat.two_pos) past
        rw [← left, SortedSets.now_expel] at seen
        refine ⟨_, seen, List.mem_append_right _ (List.mem_singleton_self _), ?_⟩
        exact congrArg some (by omega)
      · rw [if_neg (by rw [refused]; nofun)] at told
        cases told
  | remaining other limit => cases told
  | advance micros => cases told

theorem counted (h : Held seconds done admitted s) (key : Key) :
    (s.scores key.text).filter (fun t => s.now < t + seconds * 1000)
      = (timesOf key admitted).filter fun t => s.now < t + seconds * 1000 := by
  obtain ⟨gone, split, old⟩ := (h.tracks.logs key).split
  have past := (h.tracks.logs key).upTo.past
  dsimp only at split past
  have uncounted : gone.filter (fun t => s.now < t + seconds * 1000) = [] := by
    rw [List.filter_eq_nil_iff]
    intro t ht
    have := old t ht
    have := past t (split ▸ List.mem_append_left _ ht)
    rw [decide_eq_true_eq]
    omega
  rw [split, List.filter_append, uncounted, List.nil_append]

theorem gone (h : Held seconds done admitted s)
    (old : ∀ t, (key, t) ∈ admitted → t + 2 * (seconds * 1000) ≤ s.now) :
    s.get? key.text = none := by
  cases seen : s.get? key.text with
  | none => rfl
  | some set =>
      obtain ⟨newest, mem, -, -, ahead⟩ := h.tracks.newest_of_seen seen
      rw [← SortedSets.scores_of_seen seen] at mem
      have := old newest (mem_timesOf.1 ((h.tracks.logs key).subset mem))
      omega

theorem lifetimes (h : Held seconds done admitted s) (pos : 0 < seconds) :
    Lifetimes seconds done admitted s := by
  constructor
  case filled =>
    intro key set seen
    rw [SortedSets.get?_visible] at seen
    exact h.filled seen
  case ends =>
    intro key set seen
    rw [SortedSets.get?_visible] at seen
    obtain ⟨newest, mem, most, end', -⟩ := h.tracks.newest_of_seen seen
    exact ⟨newest, mem, most, end'⟩
  case unmoved =>
    intro op refused key set seen
    rw [SortedSets.get?_visible] at seen ⊢
    exact h.unmoved refused seen
  case renewed =>
    intro op key told
    rw [SortedSets.get?_visible]
    exact h.renewed pos told
  case kept =>
    rintro micros key ⟨t, mem, young⟩
    refine (h.tracks.scores_advance micros key.text).resolve_right ?_
    rintro ⟨-, old⟩
    exact Nat.not_lt.2 (old t mem) young
  case counted => exact h.counted
  case gone =>
    intro key old
    rw [SortedSets.get?_visible]
    exact h.gone old

end Held

-- =========================================================== the theorem

/-- After any run of the scripts, on any keys with any limits, from an
empty store on and at whatever times. -/
theorem lifetimes_after {seconds : Nat} (pos : 0 < seconds) (micros : Nat) (ops : List Op) :
    Lifetimes seconds ops (admissions seconds (SortedSets.start micros) ops)
      (after seconds (SortedSets.start micros) ops) :=
  ((Held.start seconds micros).run ops).lifetimes pos

/-- A window of one second: the second request is refused and a count is
made, and neither puts the end off; the third is admitted when the first
has left the window. Two windows later the key is gone. -/
theorem lifetimes_after_three_requests :
    let key : Key := ⟨"k"⟩
    let ops : List Op := [.consume key 1, .advance 600000, .consume key 1, .remaining key 5,
      .advance 400000, .consume key 2]
    let s := after 1 (SortedSets.start 0) ops
    0 < 1 ∧ admissions 1 (SortedSets.start 0) ops = [(key, 0), (key, 1000)]
      ∧ s.visible.rows = [("k", ⟨[1000], some 3000⟩)]
      ∧ (s.advance 1999000).visible.rows = s.visible.rows
      ∧ (s.advance 2000000).visible.get? "k" = none := by
  intro key ops s
  have admitted : admissions 1 (SortedSets.start 0) ops = [(key, 0), (key, 1000)] := by
    decide +kernel
  have later := lifetimes_after Nat.one_pos 0 (ops ++ [.advance 2000000])
  refine ⟨Nat.one_pos, admitted, by decide +kernel, by decide +kernel, ?_⟩
  refine later.gone key fun t mem => ?_
  have booked : admissions 1 (SortedSets.start 0) (ops ++ [.advance 2000000])
      = [(key, 0), (key, 1000)] := by
    decide +kernel
  have now : (after 1 (SortedSets.start 0) (ops ++ [.advance 2000000])).now = 3000 := by
    decide +kernel
  rw [booked] at mem
  rw [now]
  simp at mem
  omega

end Script

end TenantGate.Store
