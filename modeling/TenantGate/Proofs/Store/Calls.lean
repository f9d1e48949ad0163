/-
What one call of a caller does to the store, and what its answer says.

A call takes a connection, held or opened for it, and then a script. It
has an effect on the sets only if it gets through both (`executes`). Then
the sets are those that the script leaves and the answer is what the
reply is good for (`call_of_executes`). Else the sets are as they were,
and the caller is told that the store is unavailable
(`call_of_not_executes`), as long as the store is `Honest`: it may fail
in any way, but it does not make up replies to scripts. The store also
counts its connections, and nothing depends on that (`call_accepted`).

The last section is about replies that are good for something: verdicts
and counts whose numbers fit arrive as they were sent.
-/
import TenantGate.Proofs.Store.Scripts
import TenantGate.Store.Client

namespace TenantGate.Store

open Limit (Error Key)
open Window (Verdict)

namespace Server

/-- Does the store run the scripts that reach it? -/
def runs (s : Server) : Bool :=
  match s.script with
  | .proper => true
  | _ => false

/-- No reply to a script is made up. -/
def Honest (s : Server) : Prop := ∀ r, s.script ≠ .reply r

theorem askScript_accepted (run : SortedSets → Reply × SortedSets) (s : Server) (n : Nat) :
    askScript run { s with accepted := n }
      = ((askScript run s).1, { (askScript run s).2 with accepted := n }) := by
  obtain ⟨sets, reachable, greeting, ping, script, accepted⟩ := s
  cases script with
  | _ => rfl

theorem script_of_runs {s : Server} (h : s.runs = true) : s.script = .proper := by
  unfold runs at h
  split at h
  next proper => exact proper
  next => cases h

end Server

namespace Client

variable {α : Type} (run : SortedSets → Reply × SortedSets) (decode : Reply → Option α)
  {c : Client} {s : Server}

/-- What a caller is answered when a reply came back that was good for
something, or for nothing. -/
def answer : Option α → Except Error α
  | some a => .ok a
  | none => .error (callFailed "unexpected reply")

def verdict? (r : Reply) : Option Verdict := r.toTriple?.map toVerdict

def count? (r : Reply) : Option Nat := r.toInt?.map toCount

/-- Does a call get through to the sets? -/
def executes (c : Client) (s : Server) : Bool := (c.connect s).1.isOk && s.runs

-- ========================================================== connections

/-- All that opening a connection changes on the store is the count. -/
theorem openConnection_server (s : Server) :
    ∃ n, (openConnection s).2 = { s with accepted := n } := by
  unfold openConnection
  split
  next => exact ⟨s.accepted + 1, rfl⟩
  next => exact ⟨s.accepted, rfl⟩

theorem connect_server (c : Client) (s : Server) :
    ∃ n, (c.connect s).2.2 = { s with accepted := n } := by
  obtain ⟨n, e⟩ := openConnection_server s
  unfold connect
  split
  next => exact ⟨s.accepted, rfl⟩
  next =>
    split
    next opened => exact ⟨n, (congrArg Prod.snd opened).symm.trans e⟩
    next failed => exact ⟨n, (congrArg Prod.snd failed).symm.trans e⟩

/-- A connection that cannot be opened is a store that is unavailable,
with a reason of its own. -/
theorem openConnection_error {e : Error} (h : (openConnection s).1 = .error e) :
    ∃ detail, e = cannotConnect detail := by
  unfold openConnection at h
  split at h
  next =>
    dsimp only at h
    split at h
    case h_6 =>
      split at h
      next => cases h
      next =>
        cases h
        exact ⟨_, rfl⟩
    all_goals
      cases h
      exact ⟨_, rfl⟩
  next =>
    cases h
    exact ⟨_, rfl⟩

theorem connect_error {e : Error} (h : (c.connect s).1 = .error e) :
    ∃ detail, e = cannotConnect detail := by
  unfold connect at h
  split at h
  next => cases h
  next =>
    split at h
    next => cases h
    next failed =>
      cases h
      exact openConnection_error (congrArg Prod.fst failed)

-- ================================================================ calls

theorem call_of_connect_error {e : Error} (h : (c.connect s).1 = .error e) :
    c.call run decode s = (.error e, (c.connect s).2) := by
  unfold call
  split
  next failed =>
    rw [failed] at h ⊢
    cases h
    rfl
  next opened =>
    rw [opened] at h
    cases h

theorem call_of_connect_ok (h : (c.connect s).1 = .ok ()) :
    c.call run decode s
      = ((settle decode ((c.connect s).2.2.askScript run).1).1,
        ⟨(settle decode ((c.connect s).2.2.askScript run).1).2⟩,
        ((c.connect s).2.2.askScript run).2) := by
  unfold call
  split
  next failed =>
    rw [failed] at h
    cases h
  next opened => rw [opened]

/-- A call that gets through is its script, and holds the connection. -/
theorem call_of_executes (h : c.executes s = true) :
    ∃ n, c.call run decode s
      = (answer (decode (run s.sets).1), ⟨true⟩,
        { s with sets := (run s.sets).2, accepted := n }) := by
  unfold executes at h
  rw [Bool.and_eq_true] at h
  obtain ⟨connected, proper⟩ := h
  have script := Server.script_of_runs proper
  cases r : (c.connect s).1 with
  | error e =>
      rw [r] at connected
      cases connected
  | ok u =>
      obtain ⟨n, server⟩ := connect_server c s
      have asked : (c.connect s).2.2.askScript run
          = (.reply (run s.sets).1, { s with sets := (run s.sets).2, accepted := n }) := by
        rw [server]
        unfold Server.askScript
        dsimp only
        rw [script]
      refine ⟨n, ?_⟩
      rw [call_of_connect_ok run decode r, asked]
      unfold settle
      dsimp only
      cases decode (run s.sets).1 with
      | none => rfl
      | some a => rfl

/-- A call that does not get through changes nothing on the store but the
count of connections, and tells that the store is unavailable. -/
theorem call_of_not_executes (honest : s.Honest) (h : c.executes s = false) :
    ∃ (e : Error) (c' : Client) (n : Nat), e.isUnavailable = true
      ∧ c.call run decode s = (.error e, c', { s with accepted := n }) := by
  obtain ⟨n, server⟩ := connect_server c s
  cases r : (c.connect s).1 with
  | error e =>
      obtain ⟨detail, rfl⟩ := connect_error r
      refine ⟨cannotConnect detail, (c.connect s).2.1, n, rfl, ?_⟩
      rw [call_of_connect_error run decode r, ← server]
  | ok u =>
      have held : s.runs = false := by
        unfold executes at h
        rw [r] at h
        exact h
      rw [call_of_connect_ok run decode r, server]
      unfold Server.askScript
      dsimp only
      unfold Server.runs at held
      unfold Server.Honest at honest
      cases mode : s.script with
      | proper =>
          rw [mode] at held
          cases held
      | silent => exact ⟨_, _, n, rfl, rfl⟩
      | close => exact ⟨_, _, n, rfl, rfl⟩
      | error text => exact ⟨_, _, n, rfl, rfl⟩
      | reply forged => exact absurd mode (honest forged)

-- ============================================= the count of connections

/-- How many connections there have been makes no difference. -/
theorem connect_accepted (c : Client) (s : Server) (n : Nat) :
    ∃ m, c.connect { s with accepted := n }
      = ((c.connect s).1, (c.connect s).2.1, { (c.connect s).2.2 with accepted := m }) := by
  have opened : ∃ m, openConnection { s with accepted := n }
      = ((openConnection s).1, { (openConnection s).2 with accepted := m }) := by
    unfold openConnection
    dsimp only
    split
    next => exact ⟨n + 1, rfl⟩
    next => exact ⟨n, rfl⟩
  obtain ⟨m, e⟩ := opened
  unfold connect
  split
  next => exact ⟨n, rfl⟩
  next =>
    refine ⟨m, ?_⟩
    rw [e]
    obtain ⟨r, s'⟩ := openConnection s
    cases r with
    | error e => rfl
    | ok u => rfl

theorem call_accepted (c : Client) (s : Server) (n : Nat) :
    ∃ m, c.call run decode { s with accepted := n }
      = ((c.call run decode s).1, (c.call run decode s).2.1,
        { (c.call run decode s).2.2 with accepted := m }) := by
  obtain ⟨m, e⟩ := connect_accepted c s n
  refine ⟨m, ?_⟩
  unfold call
  rw [e]
  obtain ⟨r, c', s'⟩ := c.connect s
  cases r with
  | error e => rfl
  | ok u =>
      dsimp only
      rw [Server.askScript_accepted]

theorem executes_accepted (c : Client) (s : Server) (n : Nat) :
    c.executes { s with accepted := n } = c.executes s := by
  obtain ⟨m, e⟩ := connect_accepted c s n
  unfold executes
  rw [e]
  rfl

-- ============================================================== answers

theorem toCount_of_lt {n : Nat} (h : n < 2 ^ 32) : toCount n = n := by
  unfold toCount
  rw [Int.toNat_natCast]
  omega

theorem toInt?_int {n : Int} (h : Reply.isInt64 n = true) : (Reply.int n).toInt? = some n :=
  if_pos h

theorem toInt?_some {n m : Int} (h : (Reply.int n).toInt? = some m) :
    Reply.isInt64 n = true ∧ m = n := by
  unfold Reply.toInt? at h
  dsimp only at h
  split at h
  next fits => exact ⟨fits, (Option.some.inj h).symm⟩
  next => cases h

theorem toInt?_ofNat {n : Nat} (h : n < 2 ^ 63) : (Reply.int n).toInt? = some (n : Int) := by
  apply toInt?_int
  unfold Reply.isInt64
  rw [Bool.and_eq_true, decide_eq_true_eq, decide_eq_true_eq]
  omega

/-- The room of an admission has 32 bits, and a wait is at least a second
and has 63. -/
def Sendable : Verdict → Prop
  | .admitted left => left < 2 ^ 32
  | .denied wait => 1 ≤ wait ∧ wait < 2 ^ 63

/-- A verdict that can be sent arrives. -/
theorem verdict?_replyOf {v : Verdict} (h : Sendable v) :
    verdict? (replyOf v) = some v := by
  unfold verdict?
  cases v with
  | admitted left =>
      have fits : left < 2 ^ 32 := h
      have triple : (replyOf (.admitted left)).toTriple? = some (1, (left : Int), 0) :=
        Reply.toTriple?_eq_some_iff.2
          ⟨.int 1, .int left, .int 0, rfl, rfl, toInt?_ofNat (by omega), rfl⟩
      rw [triple]
      show some (Verdict.admitted (toCount left)) = _
      rw [toCount_of_lt fits]
  | denied wait =>
      obtain ⟨pos, fits⟩ : 1 ≤ wait ∧ wait < 2 ^ 63 := h
      have triple : (replyOf (.denied wait)).toTriple? = some (0, 0, (wait : Int)) :=
        Reply.toTriple?_eq_some_iff.2
          ⟨.int 0, .int 0, .int wait, rfl, rfl, rfl, toInt?_ofNat fits⟩
      rw [triple]
      show some (Verdict.denied (max (wait : Int).toNat 1)) = _
      rw [Int.toNat_natCast, Nat.max_eq_left pos]

/-- What a caller hears of a verdict that arrives: the room is cut to 32
bits, and a wait is at least a second. -/
def heard : Verdict → Verdict
  | .admitted left => .admitted (toCount left)
  | .denied wait => .deny wait

theorem eq_heard {v w : Verdict} (h : verdict? (replyOf v) = some w) : w = heard v := by
  obtain ⟨⟨x, y, z⟩, triple, rfl⟩ := Option.map_eq_some_iff.1 h
  obtain ⟨a, b, c, items, first, second, third⟩ := Reply.toTriple?_eq_some_iff.1 triple
  cases v with
  | admitted left =>
      cases items
      cases first
      rw [(toInt?_some second).2]
      rfl
  | denied wait =>
      cases items
      cases first
      rw [(toInt?_some third).2]
      rfl

theorem allowed_heard (v : Verdict) : (heard v).allowed = v.allowed := by
  cases v with
  | _ => rfl

/-- The room under a limit of 32 bits arrives, none if it is negative. -/
theorem count?_room {limit used : Nat} (limited : limit < 2 ^ 32) (few : used < 2 ^ 32) :
    count? (.int ((limit : Int) - used)) = some (limit - used) := by
  have fits : Reply.isInt64 ((limit : Int) - used) = true := by
    unfold Reply.isInt64
    rw [Bool.and_eq_true, decide_eq_true_eq, decide_eq_true_eq]
    omega
  unfold count?
  rw [toInt?_int fits, Option.map_some]
  refine congrArg some ?_
  unfold toCount
  omega

end Client

end TenantGate.Store
