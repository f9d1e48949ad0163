/-
The two scripts that keep a sliding window in a sorted set. Each runs
as one step on the store, at the store's own clock, so all who share
the store share one time.

`consume` drops what has expired, adds the present time if fewer than
`limit` scores are left, and answers whether it did, the room that is
left and the seconds to wait. `remaining` drops what has expired and
answers the limit less the count, which is negative if the limit has
shrunk.

Scripts count in floating point. The time stays below 2^53 milliseconds,
and as scores are not negative it makes no difference how a window that
is longer than that is taken off it. But the moment at which a score
expires may come out wrong, and with it the wait (`wait`).
-/
import TenantGate.Store.Double
import TenantGate.Store.Reply
import TenantGate.Store.SortedSets

namespace TenantGate.Store.Script

/-- Drops the scores of a key that a window of `seconds` has left behind. -/
def expel (key : String) (seconds : Nat) (s : SortedSets) : SortedSets :=
  s.removeUpTo key ((s.now : Int) - (seconds * 1000 : Nat))

/-- The seconds to wait when there is no room: each number on the way is
rounded. -/
def wait (now seconds : Nat) (scores : List Nat) : Nat :=
  let seconds := Double.round seconds
  match scores with
  | [] => max seconds 1
  | oldest :: _ =>
      let expiry := Double.round (oldest + Double.round (seconds * 1000))
      max (Double.ceilDiv (Double.round (expiry - now)) 1000) 1

/-- Admits and records a request on `key` if there is room. -/
def consume (key : String) (limit seconds : Nat) (s : SortedSets) : Reply × SortedSets :=
  let kept := expel key seconds s
  let scores := kept.scores key
  if scores.length < limit then
    (.array [.int 1, .int ((limit : Int) - scores.length - 1), .int 0],
      (kept.add key kept.now).expire key (seconds * 2))
  else
    (.array [.int 0, .int 0, .int (wait kept.now seconds scores)], kept)

/-- Counts the room on `key`. -/
def remaining (key : String) (limit seconds : Nat) (s : SortedSets) : Reply × SortedSets :=
  let kept := expel key seconds s
  (.int ((limit : Int) - (kept.scores key).length), kept)

end TenantGate.Store.Script
