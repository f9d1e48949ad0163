/-
Tables with one row per key.

A `Table κ α` is a finite map whose rows stand in the order in which
their keys first came. No key has two rows, and the type says so, so a
row's value is determined by its key. `get?` is the view through which
everything else is stated: each operation below has one equation that
says what it does to `get?`, and one for the keys or the size where a
count of rows can be observed.
-/
namespace TenantGate

/-- Rows of a key and a value, at most one row to a key. -/
structure Table (κ α : Type) where
  rows : List (κ × α)
  nodup : (rows.map Prod.fst).Nodup

namespace Table

variable {κ α : Type}

/-- The table without rows. -/
def empty : Table κ α := ⟨[], .nil⟩

instance : EmptyCollection (Table κ α) := ⟨empty⟩
instance : Inhabited (Table κ α) := ⟨empty⟩

/-- The keys, in the order in which they came. -/
def keys (t : Table κ α) : List κ := t.rows.map Prod.fst

/-- The number of rows. -/
def size (t : Table κ α) : Nat := t.rows.length

/-- Is there no row at all? -/
def isEmpty (t : Table κ α) : Bool := t.rows.isEmpty

theorem nodup_keys (t : Table κ α) : t.keys.Nodup := t.nodup

theorem length_keys (t : Table κ α) : t.keys.length = t.size := by
  simp [keys, size]

/-- Keeps the rows that `f` gives a value, with that value. -/
def filterMap {β : Type} (f : κ → α → Option β) (t : Table κ α) : Table κ β where
  rows := t.rows.filterMap fun r => (f r.1 r.2).map (r.1, ·)
  nodup := by
    have sub : ∀ l : List (κ × α),
        ((l.filterMap fun r => (f r.1 r.2).map (r.1, ·)).map Prod.fst).Sublist
          (l.map Prod.fst) := by
      intro l
      induction l with
      | nil => simp
      | cons r l ih =>
        cases h : f r.1 r.2 with
        | none => simpa [List.filterMap_cons, h] using ih.cons r.1
        | some b => simpa [List.filterMap_cons, h] using ih
    exact t.nodup.sublist (sub t.rows)

theorem size_filterMap_le {β : Type} (f : κ → α → Option β) (t : Table κ α) :
    (t.filterMap f).size ≤ t.size :=
  List.length_filterMap_le ..

variable [DecidableEq κ]

/-- The value in the row of `k`. -/
def get? (t : Table κ α) (k : κ) : Option α :=
  (t.rows.find? fun r => r.1 = k).map Prod.snd

/-- Is there a row for `k`? -/
def contains (t : Table κ α) (k : κ) : Bool := (t.get? k).isSome

/-- Writes `a` in the row of `k`, which is new if there was none. -/
def put (t : Table κ α) (k : κ) (a : α) : Table κ α :=
  if h : k ∈ t.keys then
    { rows := t.rows.map fun r => if r.1 = k then (k, a) else r
      nodup := by
        have same : (t.rows.map fun r => if r.1 = k then (k, a) else r).map Prod.fst
            = t.rows.map Prod.fst := by
          rw [List.map_map]
          refine List.map_congr_left fun r _ => ?_
          by_cases hr : r.1 = k <;> simp [hr]
        rw [same]
        exact t.nodup }
  else
    { rows := t.rows ++ [(k, a)]
      nodup := by
        rw [List.map_append, List.nodup_append]
        refine ⟨t.nodup, by simp, fun x hx y hy => ?_⟩
        rintro rfl
        exact h (by simp_all [keys]) }

/-- Takes the row of `k` away. -/
def erase (t : Table κ α) (k : κ) : Table κ α where
  rows := t.rows.filter fun r => r.1 ≠ k
  nodup := t.nodup.sublist (List.filter_sublist.map _)

/-- The table of a list of rows; of two rows for one key the later stays. -/
def ofList (rows : List (κ × α)) : Table κ α :=
  rows.foldl (fun t r => t.put r.1 r.2) empty

-- ================================================== the view `get?`

theorem mem_rows_iff {t : Table κ α} {k : κ} {a : α} :
    (k, a) ∈ t.rows ↔ t.get? k = some a := by
  obtain ⟨rows, nodup⟩ := t
  simp only [get?]
  induction rows with
  | nil => simp
  | cons r rows ih =>
    obtain ⟨k', a'⟩ := r
    rw [List.map_cons, List.nodup_cons] at nodup
    by_cases h : k' = k
    · subst h
      have absent : ∀ b, (k', b) ∉ rows := fun b hb =>
        nodup.1 (List.mem_map.2 ⟨_, hb, rfl⟩)
      simp [absent, eq_comm]
    · simp [h, Ne.symm h, ih nodup.2]

theorem mem_keys_iff {t : Table κ α} {k : κ} : k ∈ t.keys ↔ (t.get? k).isSome := by
  rw [keys, List.mem_map]
  constructor
  · rintro ⟨⟨k', a⟩, hr, rfl⟩
    simp [mem_rows_iff.1 hr]
  · intro h
    obtain ⟨a, ha⟩ := Option.isSome_iff_exists.1 h
    exact ⟨(k, a), mem_rows_iff.2 ha, rfl⟩

theorem get?_eq_none_iff {t : Table κ α} {k : κ} : t.get? k = none ↔ k ∉ t.keys := by
  rw [mem_keys_iff]
  cases t.get? k <;> simp

/-- A write is seen under its own key and under no other. -/
theorem get?_put (t : Table κ α) (k k' : κ) (a : α) :
    (t.put k a).get? k' = if k' = k then some a else t.get? k' := by
  apply Option.ext
  intro b
  rw [← mem_rows_iff]
  unfold put
  split
  · next h =>
    obtain ⟨⟨k₀, a₀⟩, h₀, rfl⟩ := List.mem_map.1 h
    simp only [List.mem_map]
    by_cases hk : k' = k₀
    · subst hk
      simp only [if_true, Option.some.injEq]
      constructor
      · rintro ⟨r, -, hr⟩
        by_cases e : r.1 = k'
        · simpa [e] using hr
        · simp only [e, if_false] at hr
          exact absurd (congrArg Prod.fst hr) e
      · rintro rfl
        exact ⟨_, h₀, by simp⟩
    · rw [if_neg hk, ← mem_rows_iff]
      constructor
      · rintro ⟨r, hr, e⟩
        by_cases h' : r.1 = k₀
        · simp only [h', if_true, Prod.mk.injEq] at e
          exact absurd e.1.symm hk
        · simpa only [h', if_false, ← e] using hr
      · exact fun hr => ⟨_, hr, by simp [hk]⟩
  · next h =>
    rw [List.mem_append, mem_rows_iff, List.mem_singleton, Prod.mk.injEq]
    have absent := get?_eq_none_iff.2 h
    by_cases hk : k' = k
    · subst hk
      simp [absent, eq_comm]
    · simp [hk]

/-- Taking a row away is seen under its own key and under no other. -/
theorem get?_erase (t : Table κ α) (k k' : κ) :
    (t.erase k).get? k' = if k' = k then none else t.get? k' := by
  by_cases hk : k' = k
  · subst hk
    simp [get?, erase]
  · simp only [get?, erase, hk, if_false, List.find?_filter]
    congr 2
    funext r
    by_cases hr : r.1 = k' <;> simp [hr, hk]

/-- A filter acts on each row alone. -/
theorem get?_filterMap {β : Type} (f : κ → α → Option β) (t : Table κ α) (k : κ) :
    (t.filterMap f).get? k = (t.get? k).bind (f k) := by
  apply Option.ext
  intro b
  rw [← mem_rows_iff, Option.bind_eq_some_iff]
  simp only [filterMap, List.mem_filterMap, Option.map_eq_some_iff, Prod.mk.injEq]
  constructor
  · rintro ⟨⟨k', a⟩, hr, b', hb, rfl, rfl⟩
    exact ⟨a, mem_rows_iff.1 hr, hb⟩
  · rintro ⟨a, ha, hb⟩
    exact ⟨(k, a), mem_rows_iff.2 ha, b, hb, rfl, rfl⟩

-- ==================================================== keys and size

/-- A write adds its key at the end, unless it has a row already. -/
theorem keys_put (t : Table κ α) (k : κ) (a : α) :
    (t.put k a).keys = if k ∈ t.keys then t.keys else t.keys ++ [k] := by
  unfold put
  split
  · next h =>
    simp only [keys, List.map_map]
    refine List.map_congr_left fun r _ => ?_
    by_cases hr : r.1 = k <;> simp [hr]
  · next h => simp [keys]

theorem mem_keys_put {t : Table κ α} {k k' : κ} {a : α} :
    k' ∈ (t.put k a).keys ↔ k' = k ∨ k' ∈ t.keys := by
  rw [mem_keys_iff, get?_put, mem_keys_iff]
  by_cases h : k' = k <;> simp [h]

end Table

end TenantGate
