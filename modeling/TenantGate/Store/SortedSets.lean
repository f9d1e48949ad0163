/-
Sorted sets by key on a clock that counts microseconds.

A set holds scores, which here are times in milliseconds, in ascending
order. A key lives as long as its set holds something and its time to
expire, if it has one, has not come; a key that is over is not seen any
more, whether or not its row is still there.
-/
import TenantGate.Table

namespace TenantGate.Store

/-- The scores of a key, ascending, and the millisecond at which the key
is over. -/
structure ScoreSet where
  scores : List Nat
  expireAt : Option Nat
deriving DecidableEq, Inhabited

/-- The sets by key, and the clock. -/
structure SortedSets where
  sets : Table String ScoreSet
  micros : Nat

namespace ScoreSet

/-- A set that was never written to. -/
def empty : ScoreSet := ⟨[], none⟩

/-- Is the key of this set still seen at `now`? -/
def alive (now : Nat) (s : ScoreSet) : Bool :=
  !s.scores.isEmpty && match s.expireAt with
    | none => true
    | some t => now < t

/-- Puts a score after all scores that are not greater. -/
def insert (score : Nat) : List Nat → List Nat
  | [] => [score]
  | t :: ts => if t ≤ score then t :: insert score ts else score :: t :: ts

end ScoreSet

namespace SortedSets

/-- No keys yet, at a reading of the clock. -/
def start (micros : Nat) : SortedSets := ⟨∅, micros⟩

/-- The clock in whole milliseconds. -/
def now (s : SortedSets) : Nat := s.micros / 1000

/-- The set of a key that is seen now. -/
def get? (s : SortedSets) (key : String) : Option ScoreSet :=
  (s.sets.get? key).filter (·.alive s.now)

/-- The keys that are seen now with their sets. -/
def visible (s : SortedSets) : Table String ScoreSet :=
  s.sets.filterMap fun _ set => if set.alive s.now then some set else none

/-- The scores of a key; none if the key is not seen. -/
def scores (s : SortedSets) (key : String) : List Nat :=
  ((s.get? key).getD .empty).scores

/-- Gives a key a set; without scores the key goes. -/
def write (key : String) (set : ScoreSet) (s : SortedSets) : SortedSets :=
  { s with sets := if set.scores.isEmpty then s.sets.erase key else s.sets.put key set }

/-- Removes the scores of a key that are at most `bound`. -/
def removeUpTo (key : String) (bound : Int) (s : SortedSets) : SortedSets :=
  match s.get? key with
  | none => { s with sets := s.sets.erase key }
  | some set => s.write key { set with scores := set.scores.filter fun t => bound < (t : Int) }

/-- Adds a score to a key and leaves its time to expire as it is. -/
def add (key : String) (score : Nat) (s : SortedSets) : SortedSets :=
  let set := (s.get? key).getD .empty
  s.write key { set with scores := ScoreSet.insert score set.scores }

/-- Lets a key be over in `seconds`; zero seconds end it now. -/
def expire (key : String) (seconds : Nat) (s : SortedSets) : SortedSets :=
  match s.get? key with
  | none => s
  | some set =>
      if seconds = 0 then { s with sets := s.sets.erase key }
      else s.write key { set with expireAt := some (s.now + seconds * 1000) }

/-- Moves the clock forward. -/
def advance (micros : Nat) (s : SortedSets) : SortedSets :=
  { s with micros := s.micros + micros }

end SortedSets

end TenantGate.Store
