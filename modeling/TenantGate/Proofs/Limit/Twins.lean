/-
Backends that differ in nothing but the texts of their faults.

A fault of a store has a reason, which is one of a few codes, and a detail,
which may be any text: an address with a password, or what a server said.
Two backends are twins if they give the same answers to the same calls,
however many of them and in whatever order, up to the details
(`Backend.Twins`). Nothing is asked of their states, and what else may happen
to a store between two calls is part of its state.

A limiter over one of them cannot be told from a limiter over the other: a
charge has the same answer up to the detail, and a count that takes any
fault for zero has the same answer (`Limiter.Twins`).
-/
import TenantGate.Proofs.Execution.Charging

namespace TenantGate

/-- Results of two runs: both failed, and `part` of the errors is the same,
or the value of the second is the image of that of the first. -/
inductive Agree {ε δ α β : Type} (part : ε → δ) (image : α → β) :
    Except ε α → Except ε β → Prop
  | error {e e' : ε} (same : part e' = part e) : Agree part image (.error e) (.error e')
  | ok (a : α) : Agree part image (.ok a) (.ok (image a))

theorem Agree.of_mapError {ε δ α : Type} {part : ε → δ} {r r' : Except ε α}
    (same : r'.mapError part = r.mapError part) : Agree part id r r' := by
  cases r with
  | error e =>
      cases r' with
      | error e' => exact .error (Except.error.inj same)
      | ok a' => cases same
  | ok a =>
      cases r' with
      | error e' => cases same
      | ok a' =>
          obtain rfl : a' = a := Except.ok.inj same
          exact .ok a'

namespace Limit

variable {σ σ' : Type}

/-- A fault without its detail. -/
def Error.bare : Error → Error
  | unavailable reason _ => unavailable reason ""
  | invalid _ => invalid ""

/-- A call with its answer, without the detail of a fault. -/
def Exchange.bare : Exchange → Exchange
  | check key limit seconds answer => check key limit seconds (answer.mapError Error.bare)
  | peek key limit seconds answer => peek key limit seconds (answer.mapError Error.bare)
  | close => close

-- ============================================================ the backends

namespace Backend

/-- One call. -/
def take (b : Backend σ) (s : σ) : Call → Exchange × σ
  | .check key limit seconds =>
      let (r, s) := b.check key limit seconds s
      (.check key limit seconds r, s)
  | .peek key limit seconds =>
      let (r, s) := b.peek key limit seconds s
      (.peek key limit seconds r, s)
  | .close => (.close, b.close s)

/-- The exchanges of a run of calls. -/
def exchanges (b : Backend σ) (s : σ) : List Call → List Exchange
  | [] => []
  | c :: calls => (b.take s c).1 :: b.exchanges (b.take s c).2 calls

/-- Do two backends give the same answers to the same calls, up to the
details of faults? -/
def Twins (b : Backend σ) (s : σ) (b' : Backend σ') (s' : σ') : Prop :=
  ∀ calls, (b'.exchanges s' calls).map (·.bare) = (b.exchanges s calls).map (·.bare)

namespace Twins

variable {b : Backend σ} {b' : Backend σ'} {s : σ} {s' : σ'}

theorem take (h : b.Twins s b' s') (c : Call) :
    (b'.take s' c).1.bare = (b.take s c).1.bare
      ∧ b.Twins (b.take s c).2 b' (b'.take s' c).2 :=
  ⟨(List.cons.inj (h [c])).1, fun calls => (List.cons.inj (h (c :: calls))).2⟩

theorem check (h : b.Twins s b' s') (key : Key) (limit seconds : Nat) :
    Agree Error.bare id (b.check key limit seconds s).1 (b'.check key limit seconds s').1
      ∧ b.Twins (b.check key limit seconds s).2 b' (b'.check key limit seconds s').2 := by
  obtain ⟨answer, left⟩ := h.take (.check key limit seconds)
  exact ⟨.of_mapError (Exchange.check.inj answer).2.2.2, left⟩

theorem peek (h : b.Twins s b' s') (key : Key) (limit seconds : Nat) :
    Agree Error.bare id (b.peek key limit seconds s).1 (b'.peek key limit seconds s').1
      ∧ b.Twins (b.peek key limit seconds s).2 b' (b'.peek key limit seconds s').2 := by
  obtain ⟨answer, left⟩ := h.take (.peek key limit seconds)
  exact ⟨.of_mapError (Exchange.peek.inj answer).2.2.2, left⟩

/-- Backends are twins if a relation of their states is kept by each call
and the answers agree under it. -/
theorem of_step {R : σ → σ' → Prop}
    (step : ∀ s s' c, R s s' → (b'.take s' c).1.bare = (b.take s c).1.bare
      ∧ R (b.take s c).2 (b'.take s' c).2) (related : R s s') : b.Twins s b' s' := by
  intro calls
  induction calls generalizing s s' with
  | nil => rfl
  | cons c calls ih =>
      obtain ⟨answer, left⟩ := step s s' c related
      exact congrArg₂ List.cons answer (ih left)

/-- Backends that always give the same two answers. -/
theorem constant {verdict verdict' : Except Error Window.Verdict} {room room' : Except Error Nat}
    (checks : verdict'.mapError Error.bare = verdict.mapError Error.bare)
    (peeks : room'.mapError Error.bare = room.mapError Error.bare) :
    (constant verdict room).Twins () (constant verdict' room') () := by
  refine of_step (R := fun _ _ => True) (fun s s' c _ => ⟨?_, trivial⟩) trivial
  cases c with
  | check key limit seconds => exact congrArg (Exchange.check key limit seconds) checks
  | peek key limit seconds => exact congrArg (Exchange.peek key limit seconds) peeks
  | close => rfl

end Twins

end Backend

-- ============================================================ the limiters

namespace Limiter

/-- Limiters of the same quota over twins. -/
structure Twins (l : Limiter σ) (l' : Limiter σ') : Prop where
  quota : l'.quota = l.quota
  backend : l.backend.Twins l.store l'.backend l'.store

namespace Twins

variable {l : Limiter σ} {l' : Limiter σ'}

theorem consume (h : l.Twins l') (tenant : Uuid) :
    Agree Error.bare id (l.consume tenant).1 (l'.consume tenant).1
      ∧ (l.consume tenant).2.Twins (l'.consume tenant).2 := by
  have charged := h.backend.check (.ofTenant tenant) l.quota.limit l.quota.seconds
  obtain ⟨b, quota, s⟩ := l
  obtain ⟨b', quota', s'⟩ := l'
  obtain rfl : quota' = quota := h.quota
  exact ⟨charged.1, rfl, charged.2⟩

/-- A count that fails is shown as zero, whatever the fault is. -/
theorem remainingOrZero (h : l.Twins l') (tenant : Uuid) :
    (l'.remainingOrZero tenant).1 = (l.remainingOrZero tenant).1
      ∧ (l.remainingOrZero tenant).2.Twins (l'.remainingOrZero tenant).2 := by
  obtain ⟨answer, left⟩ := h.backend.peek (.ofTenant tenant) l.quota.limit l.quota.seconds
  obtain ⟨b, quota, s⟩ := l
  obtain ⟨b', quota', s'⟩ := l'
  obtain rfl : quota' = quota := h.quota
  refine ⟨?_, rfl, left⟩
  unfold Limiter.remainingOrZero Limiter.remaining
  dsimp only at answer ⊢
  -- either both counts failed, and zero is shown, or they are the same
  generalize (b.peek (.ofTenant tenant) quota'.limit quota'.seconds s).1 = r at answer ⊢
  generalize (b'.peek (.ofTenant tenant) quota'.limit quota'.seconds s').1 = r' at answer ⊢
  cases answer with
  | error same => rfl
  | ok n => rfl

end Twins

end Limiter

end Limit

end TenantGate
