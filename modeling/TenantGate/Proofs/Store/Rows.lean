/-
What the steps of the scripts do to the rows of the sorted sets.

A row is what is written under a key, seen or not. There are two kinds of
writes in the scripts: scores that a window has left behind are removed,
and the present time is added and the key's end put off, which here is
one step, `record`. Each has one equation on rows (`row_removeUpTo`,
`row_record`) and one on what is seen of the key (`scores_removeUpTo`,
`scores_record`). A row that is over shows nothing (`scores_of_row`),
whenever it goes.
-/
import TenantGate.Store.Script

namespace TenantGate.Store

namespace ScoreSet

theorem insert_of_le {score : Nat} {scores : List Nat} (h : ∀ t ∈ scores, t ≤ score) :
    insert score scores = scores ++ [score] := by
  induction scores with
  | nil => rfl
  | cons t ts ih =>
      rw [insert, if_pos (h t List.mem_cons_self),
        ih fun u hu => h u (List.mem_cons_of_mem _ hu)]
      rfl

theorem insert_ne_nil (score : Nat) (scores : List Nat) : insert score scores ≠ [] := by
  cases scores with
  | nil => exact List.cons_ne_nil _ _
  | cons t ts =>
      unfold insert
      split
      next => exact List.cons_ne_nil _ _
      next => exact List.cons_ne_nil _ _

/-- A key is seen while its set holds something and its end is ahead. -/
theorem alive_iff {now end' : Nat} {set : ScoreSet} (h : set.expireAt = some end') :
    set.alive now = true ↔ set.scores ≠ [] ∧ now < end' := by
  unfold alive
  rw [h]
  simp

end ScoreSet

namespace SortedSets

variable {s : SortedSets} {key : String} {set : ScoreSet}

/-- What is written under a key, seen or not. -/
def row? (s : SortedSets) (key : String) : Option ScoreSet := s.sets.get? key

theorem get?_eq (s : SortedSets) (key : String) :
    s.get? key = (s.row? key).filter (·.alive s.now) := rfl

theorem scores_of_no_row (h : s.row? key = none) : s.scores key = [] := by
  unfold scores
  rw [get?_eq, h]
  rfl

/-- A key shows the scores of its row as long as it is seen. -/
theorem scores_of_row (h : s.row? key = some set) :
    s.scores key = if set.alive s.now then set.scores else [] := by
  unfold scores
  rw [get?_eq, h, Option.filter_some]
  split
  next => rfl
  next => rfl

theorem scores_congr {s s' : SortedSets} {key : String} (row : s.row? key = s'.row? key)
    (now : s.now = s'.now) : s.scores key = s'.scores key := by
  unfold scores
  rw [get?_eq, get?_eq, row, now]

-- ============================================================== writes

theorem row_write (key other : String) (set : ScoreSet) (s : SortedSets) :
    (s.write key set).row? other
      = if other = key then (if set.scores = [] then none else some set)
        else s.row? other := by
  show Table.get? (if set.scores.isEmpty then _ else _) other = _
  by_cases none_left : set.scores = []
  · rw [if_pos (by simpa using none_left), if_pos none_left]
    exact Table.get?_erase _ _ _
  · rw [if_neg (by simpa using none_left), if_neg none_left]
    exact Table.get?_put _ _ _ _

theorem now_write (key : String) (set : ScoreSet) (s : SortedSets) :
    (s.write key set).now = s.now := rfl

theorem now_removeUpTo (key : String) (bound : Int) (s : SortedSets) :
    (s.removeUpTo key bound).now = s.now := by
  unfold removeUpTo
  cases s.get? key with
  | none => rfl
  | some set => exact now_write _ _ _

/-- The scores up to a bound go; so does a row that was over, or that is
left without scores. -/
theorem row_removeUpTo (key other : String) (bound : Int) (s : SortedSets) :
    (s.removeUpTo key bound).row? other
      = if other = key then
          (if (s.scores key).filter (fun t : Nat => bound < (t : Int)) = [] then none
          else (s.row? key).map fun set =>
            { set with scores := set.scores.filter fun t : Nat => bound < (t : Int) })
        else s.row? other := by
  unfold removeUpTo
  cases seen : s.get? key with
  | none =>
      have nothing : s.scores key = [] := by
        unfold scores
        rw [seen]
        rfl
      rw [nothing]
      exact Table.get?_erase _ _ _
  | some set =>
      obtain ⟨row, alive⟩ : s.row? key = some set ∧ set.alive s.now = true := by
        rw [get?_eq, Option.filter_eq_some_iff] at seen
        exact seen
      rw [scores_of_row row, if_pos alive, row]
      exact row_write _ _ _ _

/-- What is seen of the key afterwards is what was not removed. -/
theorem scores_removeUpTo (key : String) (bound : Int) (s : SortedSets) :
    (s.removeUpTo key bound).scores key
      = (s.scores key).filter fun t : Nat => bound < (t : Int) := by
  have row := row_removeUpTo key key bound s
  rw [if_pos rfl] at row
  by_cases none_left : (s.scores key).filter (fun t : Nat => bound < (t : Int)) = []
  · rw [if_pos none_left] at row
    rw [scores_of_no_row row, none_left]
  · rw [if_neg none_left] at row
    cases old : s.row? key with
    | none =>
        rw [scores_of_no_row old] at none_left
        exact absurd rfl none_left
    | some set =>
        rw [scores_of_row old] at none_left ⊢
        rw [old] at row
        rw [scores_of_row row, now_removeUpTo]
        by_cases alive : set.alive s.now = true
        · rw [if_pos alive] at none_left ⊢
          refine if_pos ?_
          -- the end of the key is as before
          unfold ScoreSet.alive at alive ⊢
          rw [Bool.and_eq_true] at alive ⊢
          exact ⟨by simpa using none_left, alive.2⟩
        · rw [if_neg alive] at none_left
          exact absurd rfl none_left

/-- Adds the score to a key and puts its end off to `seconds` from now. -/
def record (s : SortedSets) (key : String) (score seconds : Nat) : SortedSets :=
  (s.add key score).expire key seconds

theorem now_record (s : SortedSets) (key : String) (score seconds : Nat) :
    (s.record key score seconds).now = s.now := by
  unfold record expire
  cases (s.add key score).get? key with
  | none => rfl
  | some set =>
      dsimp only
      split
      next => rfl
      next => rfl

theorem get?_add (key : String) (score : Nat) (s : SortedSets) :
    (s.add key score).get? key
      = some { (s.get? key).getD .empty with
          scores := ScoreSet.insert score (s.scores key) } := by
  have filled := ScoreSet.insert_ne_nil score (s.scores key)
  have row : (s.add key score).row? key
      = some { (s.get? key).getD .empty with
          scores := ScoreSet.insert score (s.scores key) } := by
    refine (row_write key key _ s).trans ?_
    rw [if_pos rfl]
    exact if_neg filled
  rw [get?_eq, row, Option.filter_some]
  refine if_pos ?_
  -- the end of a key that is seen is ahead, and a new key has none
  show (ScoreSet.mk _ ((s.get? key).getD .empty).expireAt).alive s.now = true
  cases seen : s.get? key with
  | none =>
      show (!List.isEmpty _ && true) = true
      simpa using filled
  | some set =>
      rw [get?_eq, Option.filter_eq_some_iff] at seen
      have alive := seen.2
      unfold ScoreSet.alive at alive ⊢
      rw [Bool.and_eq_true] at alive ⊢
      exact ⟨by simpa using filled, alive.2⟩

/-- The row of an added score; there is none if the key ends at once. -/
theorem row_record (key other : String) (score seconds : Nat) (s : SortedSets) :
    (s.record key score seconds).row? other
      = if other = key then
          (if seconds = 0 then none
          else some ⟨ScoreSet.insert score (s.scores key), some (s.now + seconds * 1000)⟩)
        else s.row? other := by
  have others : other ≠ key → (s.add key score).row? other = s.row? other := fun e =>
    (row_write key other _ s).trans (if_neg e)
  unfold record expire
  rw [get?_add]
  dsimp only
  by_cases at_once : seconds = 0
  · rw [if_pos at_once, if_pos at_once]
    show Table.get? (Table.erase _ key) other = _
    rw [Table.get?_erase]
    by_cases e : other = key
    · rw [if_pos e, if_pos e]
    · rw [if_neg e, if_neg e]
      exact others e
  · rw [if_neg at_once, if_neg at_once, row_write]
    by_cases e : other = key
    · rw [if_pos e, if_pos e, if_neg (ScoreSet.insert_ne_nil _ _)]
      rfl
    · rw [if_neg e, if_neg e, others e]

/-- An added score is seen, last if none is greater, unless the key ends
at once. -/
theorem scores_record {key : String} {score seconds : Nat} {s : SortedSets}
    (last : ∀ t ∈ s.scores key, t ≤ score) :
    (s.record key score seconds).scores key
      = if seconds = 0 then [] else s.scores key ++ [score] := by
  have row := row_record key key score seconds s
  rw [if_pos rfl] at row
  by_cases at_once : seconds = 0
  · rw [if_pos at_once] at row ⊢
    exact scores_of_no_row row
  · rw [if_neg at_once] at row ⊢
    rw [scores_of_row row, now_record, ← ScoreSet.insert_of_le last]
    refine if_pos ((ScoreSet.alive_iff rfl).2 ⟨ScoreSet.insert_ne_nil _ _, ?_⟩)
    omega

end SortedSets

end TenantGate.Store
