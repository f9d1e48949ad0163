/-
A walk through the records of a tenant, page after page.

# A page

A page is told by its place: what it shows, and whether something lies
beyond it, is stated of the tenant's records, newest first, by their
positions (`Paged`).

# A walk

A walk starts with the newest records and goes on by the size of a page,
until a page says that it is the last one. Between two fetches there is a
gap, in which records are added for any tenants (`walk`).

# Why nothing is lost

Records are added in front, so a gap moves what was there away from the
start: what lay beyond a page lies beyond it still, and the next page
does not begin behind it. `drop_sublist_walk` says this of a walk from
any offset: all that lies from there on when it begins is shown in the
pages to come. If the tenant's own records stay as they are in the gaps,
each page begins where the last one ended, and the walk shows exactly
what there is (`walk_of_quiet`).
-/
import Mathlib.Algebra.Order.Floor.Div
import Mathlib.GroupTheory.GroupAction.Ring
import TenantGate.Proofs.Execution.Orders

namespace TenantGate.Execution

namespace History

/-- Adds records, in order. -/
def extend (added : List (Stamp × Draft)) (h : History) : History :=
  added.foldl (fun h a => (h.append a.1 a.2).2) h

/-- The pages that are fetched from an offset on, with a gap before each
but the first. -/
def walk (tenant : Uuid) (limit : Nat) :
    Nat → List (List (Stamp × Draft)) → History → List Page
  | offset, [], h => [h.page tenant limit offset]
  | offset, gap :: gaps, h =>
      let p := h.page tenant limit offset
      if p.hasMore then p :: walk tenant limit (offset + limit) gaps (h.extend gap) else [p]

/-- Has a walk come to its end? -/
def ended (pages : List Page) : Bool := pages.getLast?.any (!·.hasMore)

/-- Does a gap leave the tenant's records as they are? -/
def Quiet (tenant : Uuid) (gap : List (Stamp × Draft)) : Prop :=
  ∀ a ∈ gap, a.2.tenant ≠ tenant

-- ================================================================ a page

section

variable {tenant : Uuid} {limit offset : Nat} {h : History}

/-- There is more if something is left when the page has been taken. -/
theorem hasMore_iff :
    (h.page tenant limit offset).hasMore = true
      ↔ limit < ((h.ofTenant tenant).drop offset).length := by
  unfold page
  dsimp only
  rw [decide_eq_true_eq, List.length_take, List.length_drop]
  omega

/-- The items of a page, and what is left, are all from its offset on. -/
theorem items_append_drop (tenant : Uuid) (limit offset : Nat) (h : History) :
    (h.page tenant limit offset).items ++ (h.ofTenant tenant).drop (offset + limit)
      = (h.ofTenant tenant).drop offset := by
  rw [← List.drop_drop]
  exact List.take_append_drop _ _

/-- The items of the last page are all from its offset on. -/
theorem items_of_last (last : ¬ (h.page tenant limit offset).hasMore = true) :
    (h.page tenant limit offset).items = (h.ofTenant tenant).drop offset := by
  rw [hasMore_iff, Nat.not_lt] at last
  exact List.take_of_length_le last

end

-- ============================================================== the gaps

theorem ofTenant_append (stamp : Stamp) (d : Draft) (tenant : Uuid) (h : History) :
    (h.append stamp d).2.ofTenant tenant = h.ofTenant tenant
      ∨ d.tenant = tenant ∧ (h.append stamp d).2.ofTenant tenant
        = { d with stamp } :: h.ofTenant tenant := by
  unfold append ofTenant
  cases h.fault with
  | some e => exact .inl rfl
  | none =>
      dsimp only
      rw [List.reverse_append]
      by_cases own : d.tenant = tenant
      · exact .inr ⟨own, List.filter_cons_of_pos (decide_eq_true own)⟩
      · exact .inl (List.filter_cons_of_neg fun theirs => own (of_decide_eq_true theirs))

/-- Records are added in front of the tenant's. -/
theorem ofTenant_suffix_extend (added : List (Stamp × Draft)) (tenant : Uuid) (h : History) :
    h.ofTenant tenant <:+ (h.extend added).ofTenant tenant := by
  induction added generalizing h with
  | nil => exact List.suffix_rfl
  | cons a added ih =>
      refine .trans ?_ (ih (h.append a.1 a.2).2)
      rcases ofTenant_append a.1 a.2 tenant h with same | ⟨-, more⟩
      · rw [same]
      · rw [more]
        exact List.suffix_cons _ _

theorem ofTenant_extend_of_quiet {gap : List (Stamp × Draft)} {tenant : Uuid}
    (quiet : Quiet tenant gap) (h : History) :
    (h.extend gap).ofTenant tenant = h.ofTenant tenant := by
  induction gap generalizing h with
  | nil => rfl
  | cons a gap ih =>
      refine (ih (fun b hb => quiet b (List.mem_cons_of_mem _ hb)) (h.append a.1 a.2).2).trans ?_
      refine (ofTenant_append a.1 a.2 tenant h).resolve_right fun own => ?_
      exact quiet a List.mem_cons_self own.1

-- ============================================================== the walk

section

variable {tenant : Uuid} {limit offset : Nat} {h : History} {gap : List (Stamp × Draft)}
  {gaps : List (List (Stamp × Draft))}

theorem walk_of_more (more : (h.page tenant limit offset).hasMore = true) :
    h.walk tenant limit offset (gap :: gaps)
      = h.page tenant limit offset
        :: (h.extend gap).walk tenant limit (offset + limit) gaps :=
  if_pos more

theorem walk_of_last (last : ¬ (h.page tenant limit offset).hasMore = true)
    (gaps : List (List (Stamp × Draft))) :
    h.walk tenant limit offset gaps = [h.page tenant limit offset] := by
  cases gaps with
  | nil => rfl
  | cons gap gaps => exact if_neg last

theorem walk_ne_nil (tenant : Uuid) (limit offset : Nat) (gaps : List (List (Stamp × Draft)))
    (h : History) : h.walk tenant limit offset gaps ≠ [] := by
  cases gaps with
  | nil => exact List.cons_ne_nil _ _
  | cons gap gaps =>
      unfold walk
      dsimp only
      split
      next => exact List.cons_ne_nil _ _
      next => exact List.cons_ne_nil _ _

theorem ended_cons {p : Page} {pages : List Page} (some_more : pages ≠ []) :
    ended (p :: pages) = ended pages := by
  obtain ⟨q, rest, rfl⟩ := List.exists_cons_of_ne_nil some_more
  unfold ended
  rw [List.getLast?_cons_cons]

/-- All that lies from the offset on when a walk begins is shown, whatever
is added on the way. -/
theorem drop_sublist_walk (came : ended (h.walk tenant limit offset gaps) = true) :
    ((h.ofTenant tenant).drop offset).Sublist
      ((h.walk tenant limit offset gaps).flatMap (·.items)) := by
  -- what the first page leaves is among what lies from the next offset on
  induction gaps generalizing offset h with
  | nil =>
      have last : ¬ (h.page tenant limit offset).hasMore = true := by
        simpa [walk, ended] using came
      rw [walk_of_last last, List.flatMap_singleton, items_of_last last]
  | cons gap gaps ih =>
      by_cases more : (h.page tenant limit offset).hasMore = true
      · rw [walk_of_more more] at came ⊢
        rw [ended_cons (walk_ne_nil _ _ _ _ _)] at came
        rw [List.flatMap_cons, ← items_append_drop tenant limit offset h]
        refine (List.Sublist.refl _).append (.trans ?_ (ih came))
        exact (ofTenant_suffix_extend gap tenant h).sublist.drop _
      · rw [walk_of_last more, List.flatMap_singleton, items_of_last more]

end

-- ===================================================== undisturbed walks

/-- How many fetches it takes to see `n` records: one at least. -/
def fetches (limit n : Nat) : Nat := max 1 (n ⌈/⌉ limit)

theorem fetches_of_le {limit n : Nat} (pos : 0 < limit) (le : n ≤ limit) :
    fetches limit n = 1 := by
  have one : n ⌈/⌉ limit ≤ 1 := by
    rw [ceilDiv_le_iff_le_smul pos, smul_eq_mul, Nat.mul_one]
    exact le
  exact Nat.max_eq_left one

/-- One fetch sees a full page, and the others see the rest. -/
theorem fetches_of_lt {limit n : Nat} (pos : 0 < limit) (lt : limit < n) :
    fetches limit n = fetches limit (n - limit) + 1 := by
  have page : n ⌈/⌉ limit = (n - limit) ⌈/⌉ limit + 1 := by
    rw [Nat.ceilDiv_eq_add_pred_div, Nat.ceilDiv_eq_add_pred_div, ← Nat.add_div_right _ pos]
    congr 1
    omega
  have some_left : 1 ≤ (n - limit) ⌈/⌉ limit := by
    rw [Nat.ceilDiv_eq_add_pred_div]
    exact (Nat.one_le_div_iff pos).2 (by omega)
  unfold fetches
  omega

section

variable {tenant : Uuid} {limit offset : Nat} {h : History}
  {gaps : List (List (Stamp × Draft))}

/-- If the tenant's records stay as they are, a walk that may take as many
fetches as it needs comes to its end and shows each of them once. -/
theorem walk_of_quiet (pos : 0 < limit) (quiet : ∀ gap ∈ gaps, Quiet tenant gap)
    (enough : ((h.ofTenant tenant).drop offset).length ≤ limit * (gaps.length + 1)) :
    ended (h.walk tenant limit offset gaps) = true
      ∧ (h.walk tenant limit offset gaps).length
        = fetches limit ((h.ofTenant tenant).drop offset).length
      ∧ (h.walk tenant limit offset gaps).flatMap (·.items)
        = (h.ofTenant tenant).drop offset := by
  induction gaps generalizing offset h with
  | nil =>
      have le : ((h.ofTenant tenant).drop offset).length ≤ limit := by simpa using enough
      have last : ¬ (h.page tenant limit offset).hasMore = true :=
        fun more => Nat.not_lt.2 le (hasMore_iff.1 more)
      rw [walk_of_last last, fetches_of_le pos le, List.flatMap_singleton, items_of_last last]
      exact ⟨by simpa [ended] using last, rfl, rfl⟩
  | cons gap gaps ih =>
      by_cases more : (h.page tenant limit offset).hasMore = true
      · have same := ofTenant_extend_of_quiet (quiet gap List.mem_cons_self) h
        have lt := hasMore_iff.1 more
        have left : ((h.ofTenant tenant).drop (offset + limit)).length
            = ((h.ofTenant tenant).drop offset).length - limit := by
          rw [← List.drop_drop, List.length_drop]
        have fewer : (((h.extend gap).ofTenant tenant).drop (offset + limit)).length
            ≤ limit * (gaps.length + 1) := by
          rw [same, left, Nat.sub_le_iff_le_add]
          rw [List.length_cons] at enough
          exact enough
        obtain ⟨came, length, items⟩ := ih (fun g hg => quiet g (List.mem_cons_of_mem _ hg)) fewer
        rw [same] at length items
        rw [walk_of_more more, ended_cons (walk_ne_nil _ _ _ _ _), List.length_cons, length, left,
          fetches_of_lt pos lt, List.flatMap_cons, items, items_append_drop]
        exact ⟨came, rfl, rfl⟩
      · have le := Nat.not_lt.1 fun lt => more (hasMore_iff.2 lt)
        rw [walk_of_last more, fetches_of_le pos le, List.flatMap_singleton, items_of_last more]
        exact ⟨by simpa [ended] using more, rfl, rfl⟩

end

-- =========================================================== the theorem

/-- A page by its place among the tenant's records, newest first. -/
structure Paged (mine : List Record) (limit offset : Nat) (p : Page) : Prop where
  total : p.total = mine.length
  items : ∀ i, p.items[i]? = if i < limit then mine[offset + i]? else none
  /-- There is more exactly if a record lies beyond the page. -/
  hasMore : p.hasMore = true ↔ offset + limit < mine.length
  /-- The offset of what follows the items is a count of 64 bits if the
  offset that was asked for and the number of the records are. -/
  bounded : offset + p.items.length ≤ max offset mine.length

theorem paged_page (tenant : Uuid) (limit offset : Nat) (h : History) :
    Paged (h.ofTenant tenant) limit offset (h.page tenant limit offset) := by
  constructor
  case total => rfl
  case items =>
    intro i
    show (((h.ofTenant tenant).drop offset).take limit)[i]? = _
    rw [List.getElem?_take, List.getElem?_drop]
  case hasMore =>
    rw [hasMore_iff, List.length_drop]
    omega
  case bounded =>
    show offset + (((h.ofTenant tenant).drop offset).take limit).length ≤ _
    rw [List.length_take, List.length_drop]
    omega

/-- Whatever records there are: each page shows its place among the
tenant's records, newest first; a walk that comes to its end has shown
all records of the tenant that were there when it began, in their order,
whatever was added on the way; and if nothing was added for the tenant,
it comes to its end in as few fetches as can be and shows each record
once. -/
theorem walk_shows_all (tenant : Uuid) {limit : Nat} (pos : 0 < limit) (records : List Record) :
    let h : History := ⟨records, none⟩
    let mine := (owned tenant records).reverse
    (∀ offset, ∃ p, h.list tenant limit offset = .ok p ∧ Paged mine limit offset p)
      ∧ (∀ gaps, ended (h.walk tenant limit 0 gaps) = true →
        (∀ r ∈ mine, ∃ p ∈ h.walk tenant limit 0 gaps, r ∈ p.items)
          ∧ mine.Sublist ((h.walk tenant limit 0 gaps).flatMap (·.items)))
      ∧ ∀ gaps, (∀ gap ∈ gaps, Quiet tenant gap) → mine.length ⌈/⌉ limit ≤ gaps.length + 1 →
        ended (h.walk tenant limit 0 gaps) = true
          ∧ (h.walk tenant limit 0 gaps).length = max 1 (mine.length ⌈/⌉ limit)
          ∧ (h.walk tenant limit 0 gaps).flatMap (·.items) = mine := by
  intro h mine
  have owner : h.ofTenant tenant = mine := ofTenant_eq_reverse_owned tenant records none
  refine ⟨fun offset => ?_, fun gaps came => ?_, fun gaps quiet enough => ?_⟩
  · exact ⟨h.page tenant limit offset, rfl, owner ▸ paged_page tenant limit offset h⟩
  · have shown := drop_sublist_walk came
    rw [List.drop_zero, owner] at shown
    exact ⟨fun r own => List.mem_flatMap.1 (shown.subset own), shown⟩
  · rw [ceilDiv_le_iff_le_smul pos, smul_eq_mul] at enough
    have all : ((h.ofTenant tenant).drop 0).length ≤ limit * (gaps.length + 1) := by
      rw [List.drop_zero, owner]
      exact enough
    have shown := walk_of_quiet pos quiet all
    rw [List.drop_zero, owner] at shown
    exact shown

/-- Three records of a tenant among those of another, two to a page. After
the first page one more is added for each tenant: the oldest record of
that page comes again, and none is left out. -/
theorem walk_shows_all_of_three :
    let draft (tenant : Uuid) : Draft := ⟨tenant, .ofNat 3, "Ada", "hello", "gpt-5", "ok"⟩
    let record (id : String) (tenant : Uuid) : Record := ⟨draft tenant, ⟨id, "now"⟩⟩
    let records := [record "1" (.ofNat 1), record "2" (.ofNat 2), record "3" (.ofNat 1),
      record "4" (.ofNat 1)]
    let gaps := [[(⟨"5", "now"⟩, draft (.ofNat 1)), (⟨"6", "now"⟩, draft (.ofNat 2))]]
    let pages := walk (.ofNat 1) 2 0 gaps ⟨records, none⟩
    0 < 2 ∧ pages.map (fun p => p.items.map (·.stamp.id)) = [["4", "3"], ["3", "1"]]
      ∧ ended pages = true
      ∧ (owned (.ofNat 1) records).reverse.Sublist (pages.flatMap (·.items)) := by
  intro draft record records gaps pages
  have came : ended pages = true := by decide +kernel
  obtain ⟨-, shown, -⟩ := walk_shows_all (.ofNat 1) Nat.two_pos records
  exact ⟨Nat.two_pos, by decide +kernel, came, (shown gaps came).2⟩

end History

end TenantGate.Execution
