/-
No tenant learns anything of the others.

# Two runs

Requests arrive at a gateway over windows in memory, time passes between
them, and the windows are purged now and then (`Event`). Of such a run a
tenant sees the responses to its own requests: those that carry one of
its keys, on whatever route. From the run all other requests are taken
away, those of other tenants and those of nobody. In the run that is left
the tenant sees the same.

The identifiers and the times of records are drawn anew in the second
run, so "the same" is up to a renaming of stamps, one for the whole run.

# The argument

The two runs go along side by side (`Alike.run`): an event that is in
both leaves the gateways alike for the tenant, and an event that is in
the first alone is not seen by the tenant. The renaming takes the stamp of
each request that is left to its stamp in the second run, which makes
sense as long as no two requests draw the same identifier.
-/
import TenantGate.Proofs.Gateway.Views

namespace TenantGate

open Execution (Stamp)
open Http (Response)
open Limit (Memory Quota)

namespace Gateway

/-- What happens to a gateway over windows in memory. The stamp of a
request is for the record, if one is made. -/
inductive Event where
  | request (stamp : Stamp) (r : Http.Request)
  | advance (ms : Nat)
  | purge (seconds : Nat)

def withWindows (f : Memory → Memory) (g : Gateway Memory) : Gateway Memory :=
  { g with service.limiter.store := f g.service.limiter.store }

/-- Is it a request of this tenant? -/
def belongs (tenant : Uuid) (g : Gateway Memory) (r : Http.Request) : Bool :=
  match g.authenticate r with
  | .ok t => t = tenant
  | .error _ => false

namespace Event

/-- One event, with the response if it is a request. -/
def take : Event → Gateway Memory → Option (Http.Request × Response) × Gateway Memory
  | request stamp r, g =>
      let (response, g) := g.handle stamp r
      (some (r, response), g)
  | advance ms, g => (none, g.withWindows (·.advance ms))
  | purge seconds, g => (none, g.withWindows fun m => (m.purge seconds).2)

/-- Is it anything but a request of somebody else? -/
def concerns (tenant : Uuid) (g : Gateway Memory) : Event → Bool
  | request _ r => g.belongs tenant r
  | _ => true

def stamps : Event → List Stamp
  | request stamp _ => [stamp]
  | _ => []

def rename (ρ : Stamp → Stamp) : Event → Event
  | request stamp r => request (ρ stamp) r
  | e => e

/-- The event whatever its stamp. -/
def bare : Event → Event := rename fun _ => default

end Event

/-- The requests of a run with their responses. -/
def trace : List Event → Gateway Memory → List (Http.Request × Response)
  | [], _ => []
  | e :: events, g =>
      let (answered, g) := e.take g
      answered.toList ++ trace events g

/-- The responses of a run to the requests of a tenant. -/
def responsesTo (tenant : Uuid) (events : List Event) (g : Gateway Memory) : List Response :=
  ((trace events g).filter fun a => g.belongs tenant a.1).map Prod.snd

theorem belongs_iff {tenant : Uuid} {g : Gateway Memory} {r : Http.Request} :
    g.belongs tenant r = true ↔ g.authenticate r = .ok tenant := by
  unfold belongs
  cases g.authenticate r with
  | error e => exact ⟨nofun, nofun⟩
  | ok t =>
      rw [Except.ok.injEq]
      exact decide_eq_true_iff

-- ======================================================== side by side

section

variable {ρ : Stamp → Stamp} {tenant : Uuid} {site : Site} {x x' y : Holdings}

theorem trace_request (stamp : Stamp) (r : Http.Request) (events : List Event)
    (g : Gateway Memory) :
    trace (.request stamp r :: events) g
      = (r, (g.handle stamp r).1) :: trace events (g.handle stamp r).2 := rfl

theorem responsesTo_own {r : Http.Request} {stamp : Stamp} (events : List Event)
    (own : (site.gateway x).belongs tenant r = true)
    (left : ((site.gateway x).handle stamp r).2 = site.gateway y) :
    responsesTo tenant (.request stamp r :: events) (site.gateway x)
      = ((site.gateway x).handle stamp r).1 :: responsesTo tenant events (site.gateway y) := by
  unfold Gateway.responsesTo
  rw [trace_request, left]
  exact congrArg (List.map Prod.snd) (List.filter_cons_of_pos own)

theorem responsesTo_other {r : Http.Request} {stamp : Stamp} (events : List Event)
    (foreign : ¬ (site.gateway x).belongs tenant r = true)
    (left : ((site.gateway x).handle stamp r).2 = site.gateway y) :
    responsesTo tenant (.request stamp r :: events) (site.gateway x)
      = responsesTo tenant events (site.gateway y) := by
  unfold Gateway.responsesTo
  rw [trace_request, left]
  exact congrArg (List.map Prod.snd) (List.filter_cons_of_neg foreign)

/-- From gateways that are alike for a tenant: all the events, and those
that concern the tenant, under other stamps. -/
theorem Alike.responsesTo (site : Site) (h : Alike ρ tenant x x') (events : List Event) :
    List.Forall₂ (Renamed ρ) (responsesTo tenant events (site.gateway x))
      (responsesTo tenant
        ((events.filter (·.concerns tenant (site.gateway x))).map (·.rename ρ))
        (site.gateway x')) := by
  -- the gateways stay alike: what is in the first run alone is unseen
  induction events generalizing x x' with
  | nil => exact .nil
  | cons e events ih =>
      cases e with
      | advance ms =>
          have alike : Alike ρ tenant ⟨x.windows.advance ms, x.records⟩
            ⟨x'.windows.advance ms, x'.records⟩ := ⟨h.windows.advance ms, h.records⟩
          exact ih alike
      | purge seconds =>
          have alike : Alike ρ tenant ⟨(x.windows.purge seconds).2, x.records⟩
            ⟨(x'.windows.purge seconds).2, x'.records⟩ := ⟨h.windows.purge seconds, h.records⟩
          exact ih alike
      | request stamp r =>
          by_cases own : (site.gateway x).belongs tenant r = true
          · have known := belongs_iff.1 own
            obtain ⟨told, y, y', left, left', alike⟩ := h.handle known stamp
            have own' : (site.gateway x').belongs tenant r = true := own
            have concerned : (Event.request stamp r).concerns tenant (site.gateway x) = true := own
            rw [responsesTo_own events own left, List.filter_cons_of_pos concerned]
            show List.Forall₂ _ _ (responsesTo tenant (.request (ρ stamp) r :: _) _)
            rw [responsesTo_own _ own' left']
            exact .cons told (ih alike)
          · obtain ⟨y, left, unseen⟩ := Hidden.handle (fun known => own (belongs_iff.2 known)) stamp
            have unconcerned :
                ¬ (Event.request stamp r).concerns tenant (site.gateway x) = true := own
            rw [responsesTo_other events own left, List.filter_cons_of_neg unconcerned]
            exact ih (h.of_unseen unseen)

end

-- ========================================================= the renaming

namespace Event

theorem rename_congr {ρ ρ' : Stamp → Stamp} {e : Event} (same : ∀ a ∈ e.stamps, ρ a = ρ' a) :
    e.rename ρ = e.rename ρ' := by
  cases e with
  | request stamp r => exact congrArg (request · r) (same stamp (List.mem_singleton_self _))
  | advance ms => rfl
  | purge seconds => rfl

theorem rename_id (e : Event) : e.rename id = e := by
  cases e with
  | _ => rfl

theorem stamps_rename (ρ : Stamp → Stamp) (e : Event) :
    (e.rename ρ).stamps = e.stamps.map ρ := by
  cases e with
  | _ => rfl

theorem flatMap_stamps_rename (ρ : Stamp → Stamp) (events : List Event) :
    (events.map (·.rename ρ)).flatMap stamps = (events.flatMap stamps).map ρ := by
  rw [List.flatMap_map, List.map_flatMap]
  exact congrArg (events.flatMap ·) (funext (stamps_rename ρ))

theorem exists_rename_eq {e e' : Event} (same : e'.bare = e.bare) :
    ∃ ρ, e' = e.rename ρ := by
  cases e with
  | request stamp r =>
      cases e' with
      | request stamp' r' =>
          cases same
          exact ⟨fun _ => stamp', rfl⟩
      | advance ms => cases same
      | purge seconds => cases same
  | _ =>
      cases e' with
      | request stamp' r' => cases same
      | _ => exact ⟨id, same⟩

/-- Runs that differ in their stamps alone are renamings of each other,
if no stamp occurs twice. -/
theorem exists_rename {kept reduced : List Event} (same : reduced.map bare = kept.map bare)
    (fresh : (kept.flatMap stamps).Nodup) : ∃ ρ, reduced = kept.map (·.rename ρ) := by
  induction kept generalizing reduced with
  | nil => exact ⟨id, List.map_eq_nil_iff.1 same⟩
  | cons e kept ih =>
      cases reduced with
      | nil => cases same
      | cons e' reduced =>
          obtain ⟨head, tail⟩ := List.cons.inj same
          rw [List.flatMap_cons, List.nodup_append] at fresh
          obtain ⟨-, fresh, apart⟩ := fresh
          obtain ⟨first, rfl⟩ := exists_rename_eq head
          obtain ⟨rest, rfl⟩ := ih tail fresh
          -- no stamp of the first event comes again, so the two renamings are one
          refine ⟨fun a => if a ∈ e.stamps then first a else rest a, ?_⟩
          have here : e.rename first
              = e.rename fun a => if a ∈ e.stamps then first a else rest a :=
            rename_congr fun a ha => (if_pos ha).symm
          have there : ∀ u ∈ kept, u.rename rest
              = u.rename fun a => if a ∈ e.stamps then first a else rest a := by
            intro u hu
            refine rename_congr fun a ha => (if_neg fun twice => ?_).symm
            exact apart a twice a (List.mem_flatMap.2 ⟨u, hu, ha⟩) rfl
          rw [List.map_cons, ← here, List.map_congr_left there]

end Event

-- ============================================================ two runs

/-- No two requests draw the same identifier. -/
def Fresh (events : List Event) : Prop := ((events.flatMap Event.stamps).map (·.id)).Nodup

/-- What is left of a run when the requests of all others are taken away. -/
def ownOf (tenant : Uuid) (events : List Event) (g : Gateway Memory) : List Event :=
  events.filter (·.concerns tenant g)

/-- A run of what is left, in which the stamps are drawn again. -/
structure Rerun (tenant : Uuid) (g : Gateway Memory) (events rerun : List Event) : Prop where
  same : rerun.map Event.bare = (ownOf tenant events g).map Event.bare
  fresh : Fresh (ownOf tenant events g)
  redrawn : Fresh rerun

/-- A gateway over windows in memory, before its first request. -/
def opening (s : Settings) (quota : Quota) (now : Nat) : Gateway Memory :=
  .ofSettings ⟨Memory.backend, quota, .start now⟩ s

theorem exists_site (s : Settings) (quota : Quota) (now : Nat) :
    ∃ site : Site, opening s quota now = site.gateway ⟨.start now, []⟩ :=
  ⟨⟨quota, .ofList s.agents, s.execution, .ofList (s.apiKeys.map fun k => (k.key, k.tenant)),
    s.server.serviceName⟩, rfl⟩

theorem Renamed.eq_of_id {r r' : Response} (h : Renamed id r r') : r = r' := by
  cases h with
  | page p =>
      have items : p.items.map (·.rename id) = p.items := List.map_id'' (fun _ => rfl) _
      unfold Execution.Page.rename
      rw [items]
  | _ => rfl

/-- With the stamps that they drew in the full run, the tenant's requests
are answered by the same responses when all others are taken away. -/
theorem responsesTo_ownOf (s : Settings) (quota : Quota) (now : Nat) (tenant : Uuid)
    (events : List Event) :
    responsesTo tenant events (opening s quota now)
      = responsesTo tenant (ownOf tenant events (opening s quota now))
        (opening s quota now) := by
  obtain ⟨site, opened⟩ := exists_site s quota now
  have start : Alike id tenant ⟨.start now, []⟩ ⟨.start now, []⟩ := ⟨.refl _ _, rfl⟩
  have told := start.responsesTo site events
  rw [List.map_id'' Event.rename_id] at told
  rw [opened, ← List.forall₂_eq_eq_eq]
  exact told.imp fun _ _ => Renamed.eq_of_id

/-- A run, and a run of what is left when the requests of all others are
taken away: the tenant is told the same, up to one renaming of stamps,
which takes different identifiers to different ones. -/
theorem noninterference (s : Settings) (quota : Quota) (now : Nat) (tenant : Uuid)
    {events rerun : List Event} (h : Rerun tenant (opening s quota now) events rerun) :
    let stamps := (ownOf tenant events (opening s quota now)).flatMap Event.stamps
    ∃ ρ : Stamp → Stamp,
      stamps.map ρ = rerun.flatMap Event.stamps
        ∧ (∀ a ∈ stamps, ∀ b ∈ stamps, (ρ a).id = (ρ b).id → a = b)
        ∧ List.Forall₂ (Renamed ρ) (responsesTo tenant events (opening s quota now))
          (responsesTo tenant rerun (opening s quota now)) := by
  intro stamps
  obtain ⟨ρ, rfl⟩ := Event.exists_rename h.same (List.Nodup.of_map _ h.fresh)
  have redrawn := h.redrawn
  unfold Fresh at redrawn
  rw [Event.flatMap_stamps_rename, List.map_map] at redrawn
  refine ⟨ρ, (Event.flatMap_stamps_rename ρ _).symm, fun a ha b hb => ?_, ?_⟩
  · exact List.inj_on_of_nodup_map redrawn ha hb
  · obtain ⟨site, opened⟩ := exists_site s quota now
    unfold ownOf
    rw [opened]
    exact Alike.responsesTo site ⟨.refl _ _, rfl⟩ events

/-- One tenant with two keys, another one, and somebody with no key that
is known: under a quota of one a minute, runs and looks at the history and
at the quota in turn. -/
theorem noninterference_of_two_tenants :
    let s : Settings :=
      { Settings.default with
        apiKeys := [⟨"a", .ofNat 1⟩, ⟨"b", .ofNat 2⟩, ⟨"c", .ofNat 1⟩]
        agents := [⟨.ofNat 3, .ofNat 1, "Ada", "helper", []⟩] }
    let quota : Quota := ⟨1, 60, by decide, by decide⟩
    let run (key : String) : Http.Request :=
      ⟨"POST", "/api/v1/agents/00000000-0000-0000-0000-000000000003/run",
        [("x-api-key", key), ("content-type", "application/json")],
        "\x7b\"prompt\":\"hello\",\"model\":\"gpt-5\"\x7d".toUTF8.toList⟩
    let look (path key : String) : Http.Request := ⟨"GET", path, [("x-api-key", key)], []⟩
    let events : List Event :=
      [.request ⟨"1", "t"⟩ (run "b"), .request ⟨"2", "t"⟩ (run "a"), .advance 1000,
        .request ⟨"3", "t"⟩ (look "/api/v1/history" "nobody"), .purge 60,
        .request ⟨"4", "u"⟩ (run "c"), .request ⟨"5", "u"⟩ (look "/api/v1/rate-limit" "b"),
        .request ⟨"6", "u"⟩ (look "/api/v1/history" "c")]
    let rerun : List Event :=
      [.request ⟨"7", "v"⟩ (run "a"), .advance 1000, .purge 60,
        .request ⟨"8", "w"⟩ (run "c"), .request ⟨"9", "w"⟩ (look "/api/v1/history" "c")]
    Rerun (.ofNat 1) (opening s quota 0) events rerun
      ∧ ∃ ρ : Stamp → Stamp, List.Forall₂ (Renamed ρ)
        (responsesTo (.ofNat 1) events (opening s quota 0))
        (responsesTo (.ofNat 1) rerun (opening s quota 0)) := by
  intro s quota run look events rerun
  have reran : Rerun (.ofNat 1) (opening s quota 0) events rerun := by
    constructor
    case same => rfl
    case fresh =>
      have own : ownOf (.ofNat 1) events (opening s quota 0)
          = [.request ⟨"2", "t"⟩ (run "a"), .advance 1000, .purge 60,
            .request ⟨"4", "u"⟩ (run "c"),
            .request ⟨"6", "u"⟩ (look "/api/v1/history" "c")] := rfl
      rw [own]
      show ["2", "4", "6"].Nodup
      decide
    case redrawn =>
      show ["7", "8", "9"].Nodup
      decide
  obtain ⟨ρ, -, -, told⟩ := noninterference s quota 0 (.ofNat 1) reran
  exact ⟨reran, ρ, told⟩

end Gateway

end TenantGate
