/-
A fault of the store is never an admission and never a denial.

# Two phases

A caller hears from a store in two phases: it holds a connection or one
can be opened (`Server.Opens`), and a reply to its script comes back
that is good for what it asks. In each phase anything may happen
instead: nothing comes back, the connection is closed, an error or some
other reply is sent. A caller that is `Ready` has the first phase behind
it, and what it is told depends on the reply to the script alone
(`call_ok_iff`). Whatever else happens is an error that says in which
phase it happened (`call_error`).

# What is told

`Told` puts this together for the two questions: when there is an
answer, and which; that every verdict is well formed; and which error
there is otherwise. It holds for every caller and every store
(`told`), so a verdict needs three numbers that the store sent, and a
store that fails gives neither an admission nor a denial.
-/
import TenantGate.Proofs.Store.Calls

namespace TenantGate.Store

open Limit (Error Key)
open Window (Verdict)

-- ==================================================== the first phase

namespace Server

/-- A connection can be opened: it is accepted, something comes back to
the greeting in time, and a text to the ping. -/
structure Opens (s : Server) : Prop where
  reachable : s.reachable = true
  greeted : s.greeting ≠ .silent ∧ s.greeting ≠ .close
  ponged : ∃ r, s.askPing = .reply r ∧ r.toText?.isSome = true

end Server

namespace Client

/-- A caller with a connection, held or to be opened. -/
def Ready (c : Client) (s : Server) : Prop := c.connected = true ∨ s.Opens

variable {α : Type} {run : SortedSets → Reply × SortedSets} {decode : Reply → Option α}
  {c : Client} {s : Server}

theorem openConnection_ok_iff (s : Server) : (openConnection s).1 = .ok () ↔ s.Opens := by
  unfold openConnection
  constructor
  · intro h
    split at h
    next reachable =>
      dsimp only at h
      split at h
      case h_6 r pong loud kept =>
        split at h
        next good => exact ⟨reachable, ⟨loud, kept⟩, r, pong, good⟩
        next => cases h
      all_goals cases h
    next => cases h
  · -- each way to fail is at odds with what came back
    rintro ⟨reachable, ⟨loud, kept⟩, r, pong, good⟩
    rw [if_pos reachable]
    dsimp only
    split
    case h_1 silent => exact absurd silent loud
    case h_2 closed => exact absurd closed kept
    case h_6 r' pong' _ _ =>
      cases pong.symm.trans pong'
      rw [if_pos good]
    all_goals
      next other _ _ => cases pong.symm.trans other

theorem connect_ok_iff (c : Client) (s : Server) : (c.connect s).1 = .ok () ↔ c.Ready s := by
  unfold connect Ready
  cases held : c.connected with
  | true => exact ⟨fun _ => .inl rfl, fun _ => rfl⟩
  | false =>
      rw [if_neg Bool.false_ne_true, ← openConnection_ok_iff s]
      split
      next opened =>
        rw [opened]
        exact ⟨fun _ => .inr rfl, fun _ => rfl⟩
      next failed =>
        rw [failed]
        refine ⟨nofun, ?_⟩
        rintro (h | h)
        · cases h
        · cases h

-- ================================================================ calls

/-- The script that a ready caller sends meets the store as it was. -/
theorem askScript_connect (c : Client) (s : Server) :
    ((c.connect s).2.2.askScript run).1 = (s.askScript run).1 := by
  obtain ⟨n, server⟩ := connect_server c s
  rw [server, Server.askScript_accepted]

theorem settle_ok_iff {o : Outcome} {a : α} :
    (settle decode o).1 = .ok a ↔ ∃ r, o = .reply r ∧ decode r = some a := by
  cases o with
  | reply r =>
      unfold settle
      dsimp only
      cases good : decode r with
      | none =>
          refine ⟨nofun, ?_⟩
          rintro ⟨r', same, good'⟩
          cases same
          rw [good] at good'
          cases good'
      | some b =>
          constructor
          · intro h
            cases h
            exact ⟨r, rfl, good⟩
          · rintro ⟨r', same, good'⟩
            cases same
            rw [good] at good'
            cases good'
            rfl
  | _ => exact ⟨nofun, nofun⟩

theorem settle_error {o : Outcome} {e : Error} (h : (settle decode o).1 = .error e) :
    ∃ detail, e = callFailed detail := by
  unfold settle at h
  split at h
  case h_1 =>
    split at h
    next => cases h
    next =>
      cases h
      exact ⟨_, rfl⟩
  all_goals
    cases h
    exact ⟨_, rfl⟩

/-- A call has an answer if both phases went well, and then it is what
the reply is good for. -/
theorem call_ok_iff {a : α} :
    (c.call run decode s).1 = .ok a ↔
      c.Ready s ∧ ∃ r, (s.askScript run).1 = .reply r ∧ decode r = some a := by
  rw [← connect_ok_iff]
  cases connected : (c.connect s).1 with
  | error e =>
      rw [call_of_connect_error run decode connected]
      exact ⟨nofun, fun h => nomatch h.1⟩
  | ok u =>
      rw [call_of_connect_ok run decode connected, askScript_connect]
      exact settle_ok_iff.trans ⟨fun h => ⟨rfl, h⟩, And.right⟩

/-- A call without an answer says in which phase it failed. -/
theorem call_error {e : Error} (h : (c.call run decode s).1 = .error e) :
    (c.Ready s ∧ ∃ detail, e = callFailed detail)
      ∨ (¬ c.Ready s ∧ ∃ detail, e = cannotConnect detail) := by
  rw [← connect_ok_iff]
  cases connected : (c.connect s).1 with
  | error e' =>
      rw [call_of_connect_error run decode connected] at h
      cases h
      exact .inr ⟨nofun, connect_error connected⟩
  | ok u =>
      rw [call_of_connect_ok run decode connected] at h
      exact .inl ⟨rfl, settle_error h⟩

-- ========================================================= the questions

theorem verdict?_eq_some_iff {r : Reply} {v : Verdict} :
    verdict? r = some v ↔
      ∃ first second third, r = .array [first, second, third]
        ∧ ∃ x y z, first.toInt? = some x ∧ second.toInt? = some y ∧ third.toInt? = some z
          ∧ v = toVerdict (x, y, z) := by
  unfold verdict?
  rw [Option.map_eq_some_iff]
  constructor
  · rintro ⟨⟨x, y, z⟩, triple, rfl⟩
    obtain ⟨a, b, d, rfl, ha, hb, hd⟩ := Reply.toTriple?_eq_some_iff.1 triple
    exact ⟨a, b, d, rfl, x, y, z, ha, hb, hd, rfl⟩
  · rintro ⟨a, b, d, rfl, x, y, z, ha, hb, hd, rfl⟩
    exact ⟨(x, y, z), Reply.toTriple?_eq_some_iff.2 ⟨a, b, d, rfl, ha, hb, hd⟩, rfl⟩

/-- The error of a call that failed: the store is unavailable, and the
reason tells whether there was a connection. -/
def Blames (ready : Prop) (e : Error) : Prop :=
  ∃ reason detail, e = .unavailable reason detail
    ∧ (reason = "redis_error" ↔ ready)
    ∧ (reason = "redis_connection_failed" ↔ ¬ ready)

theorem blames_of_call {e : Error} (h : (c.call run decode s).1 = .error e) :
    Blames (c.Ready s) e := by
  rcases call_error h with ⟨ready, detail, rfl⟩ | ⟨unready, detail, rfl⟩
  · exact ⟨_, detail, rfl, iff_of_true rfl ready,
      iff_of_false (by decide) (not_not_intro ready)⟩
  · exact ⟨_, detail, rfl, iff_of_false (by decide) unready, iff_of_true rfl unready⟩

/-- What a caller is told about a key. -/
structure Told (key : Key) (limit seconds : Nat) (c : Client) (s : Server) : Prop where
  /-- A verdict takes a connection and three numbers. The first one
  decides. -/
  verdict : ∀ v, (c.check key limit seconds s).1 = .ok v ↔
    c.Ready s ∧ ∃ first second third,
      (s.askScript (Script.consume key.text limit seconds)).1
          = .reply (.array [first, second, third])
        ∧ ∃ x y z, first.toInt? = some x ∧ second.toInt? = some y ∧ third.toInt? = some z
          ∧ v = if x = 1 then .admitted (y.toNat % 2 ^ 32) else .denied (max z.toNat 1)
  well_formed : ∀ v, (c.check key limit seconds s).1 = .ok v →
    (v.allowed = true → v.retryAfter = 0)
      ∧ (v.allowed = false → v.remaining = 0 ∧ 1 ≤ v.retryAfter)
  /-- The room takes a connection and one number. -/
  room : ∀ n, (c.peek key limit seconds s).1 = .ok n ↔
    c.Ready s ∧ ∃ r, (s.askScript (Script.remaining key.text limit seconds)).1 = .reply r
      ∧ ∃ x, r.toInt? = some x ∧ n = x.toNat % 2 ^ 32
  no_verdict : ∀ e, (c.check key limit seconds s).1 = .error e → Blames (c.Ready s) e
  no_room : ∀ e, (c.peek key limit seconds s).1 = .error e → Blames (c.Ready s) e

theorem check_ok_iff {key : Key} {limit seconds : Nat} {v : Verdict} :
    (c.check key limit seconds s).1 = .ok v ↔
      c.Ready s ∧ ∃ first second third,
        (s.askScript (Script.consume key.text limit seconds)).1
            = .reply (.array [first, second, third])
          ∧ ∃ x y z, first.toInt? = some x ∧ second.toInt? = some y
            ∧ third.toInt? = some z ∧ v = toVerdict (x, y, z) := by
  refine call_ok_iff.trans (and_congr_right fun _ => ?_)
  constructor
  · rintro ⟨r, replied, good⟩
    obtain ⟨a, b, d, rfl, numbers⟩ := verdict?_eq_some_iff.1 good
    exact ⟨a, b, d, replied, numbers⟩
  · rintro ⟨a, b, d, replied, numbers⟩
    exact ⟨_, replied, verdict?_eq_some_iff.2 ⟨a, b, d, rfl, numbers⟩⟩

theorem peek_ok_iff {key : Key} {limit seconds n : Nat} :
    (c.peek key limit seconds s).1 = .ok n ↔
      c.Ready s ∧ ∃ r, (s.askScript (Script.remaining key.text limit seconds)).1 = .reply r
        ∧ ∃ x, r.toInt? = some x ∧ n = toCount x := by
  refine call_ok_iff.trans (and_congr_right fun _ => exists_congr fun r => ?_)
  rw [Option.map_eq_some_iff]
  exact and_congr_right fun _ => exists_congr fun x => and_congr_right fun _ => eq_comm

theorem toVerdict_well_formed (x y z : Int) :
    ((toVerdict (x, y, z)).allowed = true → (toVerdict (x, y, z)).retryAfter = 0)
      ∧ ((toVerdict (x, y, z)).allowed = false →
        (toVerdict (x, y, z)).remaining = 0 ∧ 1 ≤ (toVerdict (x, y, z)).retryAfter) := by
  by_cases first : x = 1
  · have admits : toVerdict (x, y, z) = .admitted (toCount y) := if_pos first
    rw [admits]
    exact ⟨fun _ => rfl, nofun⟩
  · have denies : toVerdict (x, y, z) = .deny z.toNat := if_neg first
    rw [denies]
    exact ⟨nofun, fun _ => ⟨rfl, Verdict.one_le_retryAfter_deny _⟩⟩

/-- Whatever a store does in either phase, and whether or not there is a
connection, this is what a caller is told. -/
theorem told (key : Key) (limit seconds : Nat) (c : Client) (s : Server) :
    Told key limit seconds c s where
  verdict v := check_ok_iff
  well_formed v h := by
    obtain ⟨-, a, b, d, -, x, y, z, -, -, -, rfl⟩ := check_ok_iff.1 h
    exact toVerdict_well_formed x y z
  room n := peek_ok_iff
  no_verdict e h := blames_of_call h
  no_room e h := blames_of_call h

end Client

end TenantGate.Store
