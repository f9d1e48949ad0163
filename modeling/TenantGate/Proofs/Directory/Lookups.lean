/-
What a tenant can find among the agents.

# The last one counts

A directory is the history of what was stored in it, forgotten but for the
last agent of each identifier (`Holds`). Storing one more keeps that
(`Holds.insert`), so it holds after any list of settings and any agents
stored later (`holds_stored`), and a directory has as many rows as its history
has identifiers.

# What others store

A tenant finds the last agent of an identifier if it owns it, and otherwise
is told only what it asked for. So its look-ups depend on nothing but
`visible`, what is last and its own. Histories that show a tenant the same
go on doing so while the same agents are stored in both, its own and those of
others, although an agent of another may take the place of one of its own
(`answers_congr`).
-/
import Mathlib.Data.Finset.Card
import TenantGate.Directory.Agents

namespace TenantGate.Directory.Agents

variable {tenant id : Uuid} {a : Agent} {d d' : Agents} {history history' : List Agent}

/-- Stores agents one after the other. -/
def store (d : Agents) (as : List Agent) : Agents := as.foldl (fun d a => d.insert a) d

/-- The last agent of a history with an identifier. -/
def last? (history : List Agent) (id : Uuid) : Option Agent :=
  history.reverse.find? fun a => a.id = id

/-- The last agent of an identifier, where it is the tenant's. -/
def visible (tenant : Uuid) (history : List Agent) (id : Uuid) : Option Agent :=
  (last? history id).filter fun a => a.tenant = tenant

/-- What happens to a directory: a look-up, or an agent that is stored. -/
inductive Event where
  | find (id : Uuid)
  | insert (a : Agent)

/-- The answers to the look-ups of a tenant. -/
def answers (tenant : Uuid) (d : Agents) : List Event → List (Except Fault Agent)
  | [] => []
  | .find id :: events => d.find tenant id :: d.answers tenant events
  | .insert a :: events => (d.insert a).answers tenant events

-- ======================================================== what is stored

theorem last?_append (history : List Agent) (a : Agent) (id : Uuid) :
    last? (history ++ [a]) id = if a.id = id then some a else last? history id := by
  unfold last?
  rw [List.reverse_append, List.reverse_singleton, List.singleton_append, List.find?_cons]
  by_cases same : a.id = id
  · simp [same]
  · simp [same]

theorem visible_append (tenant : Uuid) (history : List Agent) (a : Agent) (id : Uuid) :
    visible tenant (history ++ [a]) id
      = if a.id = id then (some a).filter fun a => a.tenant = tenant
        else visible tenant history id := by
  unfold visible
  rw [last?_append]
  split
  next => rfl
  next => rfl

theorem isSome_last?_iff : (last? history id).isSome ↔ id ∈ history.map Agent.id := by
  simp [last?, List.find?_isSome]

/-- The directory holds the last agent of each identifier. -/
def Holds (history : List Agent) (d : Agents) : Prop :=
  ∀ id, d.table.get? id = last? history id

namespace Holds

theorem empty : Holds [] empty := fun _ => rfl

theorem insert (h : Holds history d) (a : Agent) : Holds (history ++ [a]) (d.insert a) := by
  intro id
  show (d.table.put a.id a).get? id = _
  rw [Table.get?_put, last?_append, h id]
  by_cases same : id = a.id
  · rw [if_pos same, if_pos same.symm]
  · rw [if_neg same, if_neg (Ne.symm same)]

theorem store (h : Holds history d) (as : List Agent) : Holds (history ++ as) (d.store as) := by
  induction as generalizing history d with
  | nil =>
      rw [List.append_nil]
      exact h
  | cons a as ih =>
      have stored := ih (h.insert a)
      rw [List.append_assoc, List.singleton_append] at stored
      exact stored

theorem size (h : Holds history d) : d.size = (history.map Agent.id).toFinset.card := by
  have keys : d.table.keys.toFinset = (history.map Agent.id).toFinset := by
    ext id
    rw [List.mem_toFinset, List.mem_toFinset, Table.mem_keys_iff, h id, isSome_last?_iff]
  rw [← keys, List.toFinset_card_of_nodup d.table.nodup_keys, Table.length_keys]
  rfl

theorem find_ok_iff (h : Holds history d) :
    d.find tenant id = .ok a ↔ last? history id = some a ∧ a.tenant = tenant := by
  rw [find_eq_ok_iff, h id]

theorem find_missing (h : Holds history d)
    (none : ¬ ∃ a, last? history id = some a ∧ a.tenant = tenant) :
    d.find tenant id = .error (missing id) := by
  apply find_of_unowned
  intro a stored owned
  rw [h id] at stored
  exact none ⟨a, stored, owned⟩

/-- A look-up shows what is visible. -/
theorem find_eq (h : Holds history d) :
    d.find tenant id = (visible tenant history id).elim (.error (missing id)) .ok := by
  cases shown : visible tenant history id with
  | none =>
      refine h.find_missing ?_
      rintro ⟨a, stored, owned⟩
      simp [visible, stored, owned] at shown
  | some a =>
      unfold visible at shown
      rw [Option.filter_eq_some_iff] at shown
      exact h.find_ok_iff.2 ⟨shown.1, by simpa using shown.2⟩

end Holds

/-- What the settings list and what is stored later is what a directory
holds. -/
theorem holds_stored (configured stored : List Agent) :
    Holds (configured ++ stored) ((ofList configured).store stored) :=
  (Holds.empty.store configured).store stored

/-- A tenant to whom two directories show the same is answered the same, also
while the same agents are stored in both. -/
theorem answers_congr (h : Holds history d) (h' : Holds history' d')
    (same : ∀ id, visible tenant history id = visible tenant history' id)
    (events : List Event) : d.answers tenant events = d'.answers tenant events := by
  induction events generalizing d d' history history' with
  | nil => rfl
  | cons event events ih =>
      cases event with
      | find id =>
          unfold answers
          rw [h.find_eq, h'.find_eq, same id, ih h h' same]
      | insert a =>
          refine ih (h.insert a) (h'.insert a) fun id => ?_
          rw [visible_append, visible_append, same id]

-- =========================================================== the theorem

/-- Of the agents that the settings list and those that were stored later, a
tenant finds the last one of an identifier if it is its own, and is told
otherwise that there is none. What it finds depends on what is visible to it,
whatever is stored meanwhile, and there are as many agents as there are
identifiers. -/
theorem finds_last_own (configured stored : List Agent) :
    let history := configured ++ stored
    let d := (ofList configured).store stored
    (∀ tenant id a, d.find tenant id = .ok a
        ↔ last? history id = some a ∧ a.tenant = tenant)
      ∧ (∀ tenant id, (¬ ∃ a, last? history id = some a ∧ a.tenant = tenant) →
        d.find tenant id = .error (missing id))
      ∧ (∀ tenant configured' stored',
        (∀ id, visible tenant history id = visible tenant (configured' ++ stored') id) →
          ∀ events, d.answers tenant events
            = ((ofList configured').store stored').answers tenant events)
      ∧ d.size = (history.map Agent.id).toFinset.card := by
  intro history d
  have holds : Holds history d := holds_stored configured stored
  refine ⟨fun tenant id a => holds.find_ok_iff, fun tenant id => holds.find_missing, ?_,
    holds.size⟩
  intro tenant configured' stored' same events
  exact answers_congr holds (holds_stored configured' stored') same events

/-- An agent that another tenant has taken over, and one that never was. -/
theorem finds_last_own_of_two_tenants :
    let one : Uuid := .ofNat 1
    let two : Uuid := .ofNat 2
    let mine : Agent := ⟨.ofNat 7, one, "Scout", "researcher", []⟩
    let theirs : Agent := { mine with tenant := two, name := "Other" }
    let events : List Event := [.find mine.id, .insert mine, .find mine.id]
    (∀ id, visible one ([mine] ++ [theirs]) id = visible one ([] ++ []) id)
      ∧ ((ofList [mine]).store [theirs]).answers one events
        = [.error (missing mine.id), .ok mine] := by
  intro one two mine theirs events
  have same : ∀ id, visible one ([mine] ++ [theirs]) id = visible one ([] ++ []) id := by
    intro id
    by_cases taken : theirs.id = id
    · rw [visible_append, if_pos taken]
      rfl
    · have other : mine.id ≠ id := taken
      rw [visible_append, if_neg taken, ← List.nil_append [mine], visible_append, if_neg other]
      rfl
  obtain ⟨-, -, blind, -⟩ := finds_last_own [mine] [theirs]
  refine ⟨same, ?_⟩
  rw [blind one [] [] same events]
  rfl

end TenantGate.Directory.Agents
