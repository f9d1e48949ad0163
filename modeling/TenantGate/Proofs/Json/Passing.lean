/-
The values that are passed over.

`skipFrom` goes from a value to what follows it. The induction is on the
grammar, with one statement for each part (`Passes`): a value may stand in
any containers, and the elements or members of a container take its
closing bracket with them. So nested texts of any depth are passed over
with the containers that were open before (`passes_of_derives`).
-/
import TenantGate.Proofs.Json.Tokens

namespace TenantGate.Json.Source

open Grammar

variable {c : Char} {cs : List Char} {s r r' rest : Source} {stack : List Bracket} {b : Bracket}

-- ============================================================== steps

theorem skipFrom_emptyList (hb : blanks s = some '[' :: r) (hc : blanks r = some ']' :: r') :
    skipFrom .value stack s = skipFrom .separator stack r' := by
  rw [skipFrom.eq_def]
  grind

theorem skipFrom_list (hb : blanks s = some '[' :: r) (hc : blanks r = some c :: r')
    (more : c ≠ ']') : skipFrom .value stack s = skipFrom .value (.list :: stack) r := by
  rw [skipFrom.eq_def]
  grind

theorem skipFrom_emptyObject (hb : blanks s = some '\x7b' :: r)
    (hc : blanks r = some '\x7d' :: r') :
    skipFrom .value stack s = skipFrom .separator stack r' := by
  rw [skipFrom.eq_def]
  grind

theorem skipFrom_object (hb : blanks s = some '\x7b' :: r) (hn : skipName r = some r') :
    skipFrom .value stack s = skipFrom .value (.object :: stack) r' := by
  rw [skipFrom.eq_def]
  grind [skipName]

theorem skipFrom_scalar (hb : blanks s = some c :: r) (scalar : c ≠ '[' ∧ c ≠ '\x7b')
    (hs : skipScalar (some c :: r) = some r') :
    skipFrom .value stack s = skipFrom .separator stack r' := by
  rw [skipFrom.eq_def]
  grind

theorem skipFrom_close (hb : blanks s = some c :: r) (closes : b.closes c) :
    skipFrom .separator (b :: stack) s = skipFrom .separator stack r := by
  rw [skipFrom.eq_def]
  grind

theorem skipFrom_nextElement (hb : blanks s = some ',' :: r) :
    skipFrom .separator (.list :: stack) s = skipFrom .value (.list :: stack) r := by
  rw [skipFrom.eq_def]
  grind [Bracket.closes]

theorem skipFrom_nextMember (hb : blanks s = some ',' :: r) (hn : skipName r = some r') :
    skipFrom .separator (.object :: stack) s = skipFrom .value (.object :: stack) r' := by
  rw [skipFrom.eq_def]
  grind [Bracket.closes]

-- ============================================================== parts

theorem skipScalar_figures {n : Numeral} (h : Figures n cs) (ends : Ends rest) :
    skipScalar (cs.map some ++ rest) = some rest := by
  have scan := Numeral.scan_append h ends
  obtain ⟨c, r, rfl, -, other⟩ := Numeral.exists_figure h
  simp only [List.map_cons, List.cons_append] at scan ⊢
  unfold skipScalar
  grind

/-- The name of a member and its colon are taken. -/
theorem skipName_append {a k b : List Char} (ha : Blanks a) (hk : Loose k) (hb : Blanks b) :
    skipName (a.map some ++ (k.map some ++ (b.map some ++ some ':' :: s))) = some s := by
  obtain ⟨xs, rfl, skip⟩ := skipString_loose hk
  have quote : ¬Blank '"' := by decide
  have colon : ¬Blank ':' := by decide
  simp [skipName, blanks_append ha, quote, skip, blanks_append hb, colon]

/-- No value starts with a blank or with the end of a list. -/
theorem exists_head {v : List Char} (h : Derives .value v) :
    ∃ c r, v = c :: r ∧ ¬Blank c ∧ c ≠ ']' := by
  cases h with
  | word h =>
    simp only [List.mem_cons, List.not_mem_nil, or_false] at h
    obtain rfl | rfl | rfl := h <;> exact ⟨_, _, rfl, by decide, by decide⟩
  | string h =>
    obtain ⟨xs, rfl, -⟩ := skipString_loose h
    exact ⟨_, _, rfl, by decide, by decide⟩
  | number h =>
    obtain ⟨c, r, rfl, blank, other⟩ := Numeral.exists_figure h
    exact ⟨c, r, rfl, blank, by rintro rfl; simp at other⟩
  | emptyList | list | emptyObject | object => exact ⟨_, _, rfl, by decide, by decide⟩

theorem map_bracketed (first last : Char) (xs : List Char) (rest : Source) :
    (first :: (xs ++ [last])).map some ++ rest
      = some first :: (xs.map some ++ some last :: rest) := by
  simp

theorem exists_element {e : List Char} (h : Derives .element e) (s : Source) :
    ∃ c r, blanks (e.map some ++ s) = some c :: r ∧ c ≠ ']' := by
  cases h with
  | padded ha hv hb =>
    obtain ⟨c, r, rfl, blank, more⟩ := exists_head hv
    rw [List.map_append, List.append_assoc, blanks_append ha]
    exact ⟨c, _, blanks_of_not_blank blank, more⟩

theorem exists_elements {es : List Char} (h : Derives .elements es) (s : Source) :
    ∃ c r, blanks (es.map some ++ s) = some c :: r ∧ c ≠ ']' := by
  cases h with
  | lastElement h => exact exists_element h s
  | moreElements head tail =>
    rw [List.map_append, List.append_assoc]
    exact exists_element head _

theorem skipFrom_blanks {a : List Char} (h : Blanks a) :
    skipFrom .value stack (a.map some ++ s) = skipFrom .value stack s := by
  have same := blanks_append (s := s) h
  rw [skipFrom.eq_def, skipFrom.eq_def .value stack s]
  grind

-- ============================================================ induction

/-- What it is to pass over a part. A value leaves the rest as it is, but an
element or a member leaves its last blanks to the reader of what follows. -/
def Passes : Part → List Char → Prop
  | .value, cs => ∀ stack rest, Ends rest →
      skipFrom .value stack (cs.map some ++ rest) = skipFrom .separator stack rest
  | .element, cs => ∀ stack rest, Ends rest → ∃ b, Blanks b ∧
      skipFrom .value stack (cs.map some ++ rest) = skipFrom .separator stack (b.map some ++ rest)
  | .elements, cs => ∀ stack rest,
      skipFrom .value (.list :: stack) (cs.map some ++ some ']' :: rest)
        = skipFrom .separator stack rest
  | .member, cs => ∀ stack rest, Ends rest → ∃ r b, skipName (cs.map some ++ rest) = some r ∧
      Blanks b ∧ skipFrom .value stack r = skipFrom .separator stack (b.map some ++ rest)
  | .members, cs => ∀ stack rest, ∃ r, skipName (cs.map some ++ some '\x7d' :: rest) = some r ∧
      skipFrom .value (.object :: stack) r = skipFrom .separator stack rest

theorem passes_of_derives {part : Part} (h : Derives part cs) : Passes part cs := by
  induction h with
  | word h =>
    intro stack rest ends
    simp only [List.mem_cons, List.not_mem_nil, or_false] at h
    obtain rfl | rfl | rfl := h
    · exact skipFrom_scalar rfl (by decide) (word?_append _)
    · exact skipFrom_scalar rfl (by decide) (word?_append _)
    · exact skipFrom_scalar rfl (by decide) (word?_append _)
  | string h =>
    intro stack rest ends
    obtain ⟨xs, rfl, skip⟩ := skipString_loose h
    exact skipFrom_scalar (blanks_of_not_blank (by decide)) (by decide) (skip rest)
  | number h =>
    intro stack rest ends
    -- the only value that what follows could prolong
    have skip := skipScalar_figures h ends
    obtain ⟨c, r, rfl, blank, other⟩ := Numeral.exists_figure h
    simp only [List.mem_cons, List.not_mem_nil, or_false, not_or] at other
    exact skipFrom_scalar (blanks_of_not_blank blank) ⟨by simp [other], by simp [other]⟩ skip
  | emptyList h =>
    intro stack rest ends
    rw [map_bracketed]
    exact skipFrom_emptyList (blanks_of_not_blank (by decide)) (blanks_append_cons h (by decide))
  | list h ih =>
    intro stack rest ends
    obtain ⟨c, r, first, more⟩ := exists_elements h (some ']' :: rest)
    rw [map_bracketed, ← ih]
    exact skipFrom_list (blanks_of_not_blank (by decide)) first more
  | emptyObject h =>
    intro stack rest ends
    rw [map_bracketed]
    exact skipFrom_emptyObject (blanks_of_not_blank (by decide))
      (blanks_append_cons h (by decide))
  | object h ih =>
    intro stack rest ends
    obtain ⟨r, name, passed⟩ := ih stack rest
    rw [map_bracketed, ← passed]
    exact skipFrom_object (blanks_of_not_blank (by decide)) name
  | padded ha hv hb ih =>
    intro stack rest ends
    refine ⟨_, hb, ?_⟩
    simp only [List.map_append, List.append_assoc]
    rw [skipFrom_blanks ha, ih _ _ (ends.blanks_append hb)]
  | lastElement h ih =>
    intro stack rest
    obtain ⟨b, hb, passed⟩ := ih (.list :: stack) (some ']' :: rest) (before_cons (by simp))
    rw [passed]
    exact skipFrom_close (blanks_append_cons hb (by decide)) rfl
  | moreElements head tail ihh iht =>
    intro stack rest
    rw [List.map_append, List.append_assoc, ← iht]
    obtain ⟨b, hb, passed⟩ := ihh (.list :: stack) _ (before_cons (c := ',') (by simp))
    rw [List.map_cons, List.cons_append, passed]
    exact skipFrom_nextElement (blanks_append_cons hb (by decide))
  | named ha hk hb he ih =>
    intro stack rest ends
    obtain ⟨b, hb', passed⟩ := ih stack rest ends
    simp only [List.map_append, List.map_cons, List.append_assoc, List.cons_append]
    exact ⟨_, b, skipName_append ha hk hb, hb', passed⟩
  | lastMember h ih =>
    intro stack rest
    obtain ⟨r, b, name, hb, passed⟩ := ih (.object :: stack) (some '\x7d' :: rest)
      (before_cons (by simp))
    refine ⟨r, name, ?_⟩
    rw [passed]
    exact skipFrom_close (blanks_append_cons hb (by decide)) rfl
  | moreMembers head tail ihh iht =>
    intro stack rest
    obtain ⟨r', name', passed'⟩ := iht stack rest
    rw [List.map_append, List.append_assoc, List.map_cons, List.cons_append]
    obtain ⟨r, b, name, hb, passed⟩ := ihh (.object :: stack) _ (before_cons (c := ',') (by simp))
    refine ⟨r, name, ?_⟩
    rw [passed, ← passed']
    exact skipFrom_nextMember (blanks_append_cons hb (by decide)) name'

/-- A value with blanks around it is passed over, up to blanks. -/
theorem skip_element {e : List Char} (h : Derives .element e) (ends : Ends rest) :
    ∃ b, Blanks b ∧ skip (e.map some ++ rest) = some (b.map some ++ rest) := by
  obtain ⟨b, hb, passed⟩ := passes_of_derives h [] rest ends
  exact ⟨b, hb, by rw [skip, passed, skipFrom]⟩

end TenantGate.Json.Source
