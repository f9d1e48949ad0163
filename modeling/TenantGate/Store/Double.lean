/-
Numbers as a script counts with them: in floating point, with 53 bits.

A whole number keeps its 53 leading bits. What stands behind them is
rounded away, to the nearest number that is left and from the middle to
the even one. Up to 2^53 there is nothing to round, and a script counts
as one would by hand; above, a sum may come out higher or lower by one
or more. A quotient has 53 bits as well, those behind the point
included, so it may come out whole where the true one is not, but not
where a number up to 2^53 is divided by a thousand (`ceilDiv_of_le`).
-/
namespace TenantGate.Store.Double

/-- The whole numbers up to this one are exact. -/
def exact : Nat := 0x20000000000000

/-- The whole number nearest to `n / d`, and the even one from the middle. -/
def nearest (n d : Nat) : Nat :=
  let rest := 2 * (n % d)
  if d < rest ∨ (rest = d ∧ n / d % 2 = 1) then n / d + 1 else n / d

/-- A whole number with no more than its 53 leading bits. -/
def round (n : Nat) : Nat :=
  let unit := 1 <<< (n.log2 - 52)
  nearest n unit * unit

/-- The quotient `n / d` with 53 bits, rounded up to a whole number. -/
def ceilDiv (n d : Nat) : Nat :=
  let bits := (n / d).log2
  -- quotients are `unit / part` apart; those below one are closer to each
  -- other than that, but what is above zero goes up to one anyway
  let unit := 1 <<< (bits - 52)
  let part := 1 <<< (52 - bits)
  (nearest (n * part) (d * unit) * unit + part - 1) / part

-- ============================================================= facts

theorem nearest_bounds (n : Nat) {d : Nat} (pos : 0 < d) :
    2 * n ≤ 2 * (d * nearest n d) + d ∧ 2 * (d * nearest n d) ≤ 2 * n + d := by
  have whole := Nat.div_add_mod n d
  have less := Nat.mod_lt n pos
  unfold nearest
  dsimp only
  split
  next =>
    rw [Nat.mul_add, Nat.mul_one]
    omega
  next => omega

theorem nearest_one (n : Nat) : nearest n 1 = n := by
  have := nearest_bounds n Nat.one_pos
  omega

theorem log2_lt_of_lt {n bits : Nat} (pos : 0 < bits) (lt : n < 1 <<< bits) :
    n.log2 < bits := by
  rw [Nat.one_shiftLeft] at lt
  rcases Nat.eq_zero_or_pos n with rfl | some
  · exact pos
  · exact (Nat.log2_lt (Nat.ne_of_gt some)).2 lt

theorem round_of_le {n : Nat} (le : n ≤ exact) : round n = n := by
  rcases Nat.lt_or_eq_of_le le with less | rfl
  · have short : n.log2 < 53 := log2_lt_of_lt (by decide) less
    have bits : n.log2 - 52 = 0 := by omega
    unfold round
    rw [bits]
    exact (Nat.mul_one _).trans (nearest_one n)
  · decide

-- past it one number in two is left: from the middle down first, then up
example : round (exact + 1) = exact ∧ round (exact + 3) = exact + 4 := by decide

/-- A quotient by a thousand is rounded up as it should be: at least nine
bits of it stand behind the point, which tell a thousandth from nothing. -/
theorem ceilDiv_of_le {n : Nat} (le : n ≤ exact) : ceilDiv n 1000 = (n + 999) / 1000 := by
  have short : (n / 1000).log2 < 44 :=
    log2_lt_of_lt (by decide) (Nat.lt_of_le_of_lt (Nat.div_le_div_right le) (by decide))
  have unit : (n / 1000).log2 - 52 = 0 := by omega
  have fine : 2 ^ 9 ≤ 1 <<< (52 - (n / 1000).log2) := by
    rw [Nat.one_shiftLeft]
    exact Nat.pow_le_pow_right (by decide) (by omega)
  unfold ceilDiv
  dsimp only
  rw [unit, Nat.shiftLeft_zero, Nat.mul_one, Nat.mul_one]
  generalize 1 <<< (52 - (n / 1000).log2) = part at fine ⊢
  have bounds := nearest_bounds (n * part) (show 0 < 1000 by decide)
  generalize nearest (n * part) 1000 = parts at bounds ⊢
  -- the parts of the whole seconds, and those of the rest
  have split : n * part = 1000 * (n / 1000 * part) + n % 1000 * part := by
    calc n * part = (1000 * (n / 1000) + n % 1000) * part := by rw [Nat.div_add_mod]
      _ = 1000 * (n / 1000 * part) + n % 1000 * part := by rw [Nat.add_mul, Nat.mul_assoc]
  have next : (n / 1000 + 1) * part = n / 1000 * part + part := Nat.succ_mul ..
  rcases Nat.eq_zero_or_pos (n % 1000) with none | some
  · have up : (n + 999) / 1000 = n / 1000 := by omega
    rw [none, Nat.zero_mul] at split
    rw [up]
    exact Nat.div_eq_of_lt_le (by omega) (by omega)
  · have up : (n + 999) / 1000 = n / 1000 + 1 := by omega
    have least : part ≤ n % 1000 * part := Nat.le_mul_of_pos_left part some
    have most : n % 1000 * part ≤ 999 * part := Nat.mul_le_mul_right part (by omega)
    have after : (n / 1000 + 1 + 1) * part = (n / 1000 + 1) * part + part := Nat.succ_mul ..
    rw [up]
    exact Nat.div_eq_of_lt_le (by omega) (by omega)

end TenantGate.Store.Double
