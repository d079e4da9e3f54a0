import Mathlib.Algebra.Order.Field.Basic
import Mathlib.Algebra.Order.Field.Rat
import Mathlib.Tactic.Linarith
import Mathlib.Tactic.Ring
import StageGate.Binary64

/-! Binary64 numbers by their values: numbers come in the order of their values, and what it means
that one is nearest to a whole number. -/
namespace StageGate

theorem twoTo_pos (n : ℕ) : 0 < twoTo n :=
  Nat.two_pow_pos n

theorem twoTo_zero : twoTo 0 = 1 := rfl

theorem twoTo_add (m n : ℕ) : twoTo (m + n) = twoTo m * twoTo n :=
  Nat.pow_add 2 m n

theorem twoTo_lt {m n : ℕ} (h : m < n) : twoTo m < twoTo n :=
  Nat.pow_lt_pow_right Nat.one_lt_two h

theorem twoTo_succ (n : ℕ) : twoTo (n + 1) = 2 * twoTo n :=
  Nat.pow_succ'

namespace Finite64

/-- How often the least magnitude above zero goes into one. -/
def unitsInOne : ℕ :=
  twoTo 1074

/-- The magnitude of a rank, counted in the least magnitude above zero. -/
def units (rank : ℕ) : ℕ :=
  if rank < hidden then rank else (hidden + rank % hidden) * twoTo (rank / hidden - 1)

/-- The value, counted in the least magnitude above zero. -/
def scaled (x : Finite64) : ℤ :=
  if x.negative then -(units x.rank : ℤ) else units x.rank

def value (x : Finite64) : ℚ :=
  if x.negative then -(x.numerator / x.denominator) else x.numerator / x.denominator

section Units

variable {e m rank : ℕ}

theorem units_eq (hleast : hidden ≤ m) (hmost : m ≤ 2 * hidden) :
    units (e * hidden + m) = m * twoTo e := by
  have hlarge : ¬e * hidden + m < hidden := by omega
  have hpos : 0 < hidden := by decide
  rw [units, if_neg hlarge]
  rcases Nat.lt_or_eq_of_le hmost with hlt | rfl
  · obtain ⟨f, rfl⟩ := Nat.exists_eq_add_of_le hleast
    have hrank : e * hidden + (hidden + f) = f + hidden * (e + 1) := by ring
    have hf : f < hidden := by omega
    rw [hrank, Nat.add_mul_mod_self_left, Nat.add_mul_div_left _ _ hpos, Nat.mod_eq_of_lt hf,
      Nat.div_eq_of_lt hf, Nat.zero_add, Nat.add_sub_cancel]
  · have hrank : e * hidden + 2 * hidden = hidden * (e + 2) := by ring
    rw [hrank, Nat.mul_mod_right, Nat.mul_div_cancel_left _ hpos]
    have hpred : e + 2 - 1 = e + 1 := rfl
    rw [hpred, twoTo_succ]
    ring

theorem exists_of_hidden_le (h : hidden ≤ rank) :
    ∃ e m, rank = e * hidden + m ∧ hidden ≤ m ∧ m < 2 * hidden := by
  have hpos : 0 < hidden := by decide
  have hquotient : 1 ≤ rank / hidden := (Nat.one_le_div_iff hpos).mpr h
  obtain ⟨e, he⟩ := Nat.exists_eq_add_of_le' hquotient
  have hrank := Nat.div_add_mod rank hidden
  have hmod := Nat.mod_lt rank hpos
  refine ⟨e, hidden + rank % hidden, ?_, by omega, by omega⟩
  rw [he] at hrank
  linarith

theorem units_lt_succ (rank : ℕ) : units rank < units (rank + 1) := by
  by_cases hsmall : rank < hidden
  · rw [units, if_pos hsmall]
    by_cases hnext : rank + 1 < hidden
    · rw [units, if_pos hnext]
      omega
    · have hlast : rank + 1 = 0 * hidden + hidden := by omega
      rw [hlast, units_eq le_rfl (by omega), twoTo_zero]
      omega
  · obtain ⟨e, m, rfl, hleast, hmost⟩ := exists_of_hidden_le (Nat.le_of_not_lt hsmall)
    rw [Nat.add_assoc, units_eq hleast hmost.le, units_eq (by omega) (by omega)]
    exact Nat.mul_lt_mul_of_pos_right (Nat.lt_succ_self m) (twoTo_pos e)

theorem strictMono_units : StrictMono units :=
  strictMono_nat_of_lt_succ units_lt_succ

@[simp]
theorem units_zero : units 0 = 0 := rfl

end Units

theorem numerator_mul (x : Finite64) :
    x.numerator * unitsInOne = units x.rank * x.denominator := by
  unfold numerator denominator units significand exponent unitsInOne
  by_cases hsmall : x.rank.val < hidden
  · have hup : (-1074 : ℤ).toNat = 0 := rfl
    have hdown : (-(-1074) : ℤ).toNat = 1074 := rfl
    rw [if_pos hsmall, if_pos hsmall, if_pos hsmall, hup, hdown, twoTo_zero, Nat.mul_one]
  · have hpos : 0 < hidden := by decide
    have hquotient : 1 ≤ x.rank.val / hidden :=
      (Nat.one_le_div_iff hpos).mpr (Nat.le_of_not_lt hsmall)
    rw [if_neg hsmall, if_neg hsmall, if_neg hsmall, Nat.mul_assoc, Nat.mul_assoc, ← twoTo_add,
      ← twoTo_add]
    congr 2
    omega

theorem value_eq (x : Finite64) : x.value = x.scaled / unitsInOne := by
  have hone : (unitsInOne : ℚ) ≠ 0 := Nat.cast_ne_zero.mpr (twoTo_pos 1074).ne'
  have hmagnitude : (x.numerator / x.denominator : ℚ) = units x.rank / unitsInOne := by
    have hdenominator : (x.denominator : ℚ) ≠ 0 :=
      Nat.cast_ne_zero.mpr (twoTo_pos _).ne'
    rw [div_eq_div_iff hdenominator hone]
    exact_mod_cast x.numerator_mul
  unfold value scaled
  rw [hmagnitude]
  split
  · rw [Int.cast_neg, neg_div, Int.cast_natCast]
  · rw [Int.cast_natCast]

theorem value_lt_iff {x y : Finite64} : x.value < y.value ↔ x.scaled < y.scaled := by
  have hone : (0 : ℚ) < unitsInOne := Nat.cast_pos.mpr (twoTo_pos 1074)
  rw [value_eq, value_eq, div_lt_div_iff_of_pos_right hone, Int.cast_lt]

theorem value_eq_iff {x y : Finite64} : x.value = y.value ↔ x.scaled = y.scaled := by
  have hone : (unitsInOne : ℚ) ≠ 0 := Nat.cast_ne_zero.mpr (twoTo_pos 1074).ne'
  rw [value_eq, value_eq, div_left_inj' hone, Int.cast_inj]

/-- A function of magnitudes that respects their order does so under a sign too. -/
theorem signed_lt_iff {f : ℕ → ℕ} (hf : StrictMono f) (hzero : f 0 = 0) (s t : Bool) (m n : ℕ) :
    (if s then -(f m : ℤ) else f m) < (if t then -(f n : ℤ) else f n) ↔
      (if s then -(m : ℤ) else m) < (if t then -(n : ℤ) else n) := by
  have hlt : f m < f n ↔ m < n := hf.lt_iff_lt
  have hgt : f n < f m ↔ n < m := hf.lt_iff_lt
  have hm : f 0 < f m ↔ 0 < m := hf.lt_iff_lt
  have hn : f 0 < f n ↔ 0 < n := hf.lt_iff_lt
  rw [hzero] at hm hn
  cases s <;> cases t <;> simp only [if_true, Bool.false_eq_true, if_false] <;> omega

/-- Numbers come in the order of their values. -/
theorem compare_position (x y : Finite64) :
    (Binary64.finite x).compare? (.finite y) = some (compare x.value y.value) := by
  have hlt := signed_lt_iff strictMono_units units_zero x.negative y.negative x.rank y.rank
  have hgt := signed_lt_iff strictMono_units units_zero y.negative x.negative y.rank x.rank
  simp only [Binary64.compare?, Binary64.position?]
  refine congrArg some ?_
  rcases lt_trichotomy x.value y.value with h | h | h
  · rw [compare_lt_iff_lt.mpr h, compare_lt_iff_lt]
    exact hlt.mp (value_lt_iff.mp h)
  · rw [compare_eq_iff_eq.mpr h, compare_eq_iff_eq]
    have hsame := value_eq_iff.mp h
    apply le_antisymm
    · exact le_of_not_gt fun habove => (hgt.mpr habove).ne' hsame
    · exact le_of_not_gt fun hbelow => (hlt.mpr hbelow).ne hsame
  · rw [compare_gt_iff_gt.mpr h, compare_gt_iff_gt]
    exact hgt.mp (value_lt_iff.mp h)

theorem abs_value_sub (x : Finite64) (i : ℤ) :
    |x.value - i| = (x.scaled - i * unitsInOne).natAbs / unitsInOne := by
  have hone : (0 : ℚ) < unitsInOne := Nat.cast_pos.mpr (twoTo_pos 1074)
  have hsub : x.value - i = ((x.scaled - i * unitsInOne : ℤ) : ℚ) / unitsInOne := by
    rw [value_eq, Int.cast_sub, Int.cast_mul, Int.cast_natCast, sub_div,
      mul_div_cancel_right₀ _ hone.ne']
  rw [hsub, abs_div, abs_of_pos hone, Nat.cast_natAbs, Int.cast_abs]

/-- No number of another value lies as near to the whole number, but one on the other side of it if
the significand is even. -/
def IsNearest (x : Finite64) (i : ℤ) : Prop :=
  ∀ y : Finite64, y.value ≠ x.value →
    |x.value - i| < |y.value - i| ∨ |x.value - i| = |y.value - i| ∧ x.significand % 2 = 0

section Nearest

variable {x y : Finite64} {i j : ℤ}

theorem isNearest_iff : x.IsNearest i ↔ ∀ y : Finite64, y.scaled ≠ x.scaled →
    (x.scaled - i * unitsInOne).natAbs < (y.scaled - i * unitsInOne).natAbs ∨
      (x.scaled - i * unitsInOne).natAbs = (y.scaled - i * unitsInOne).natAbs ∧
        x.significand % 2 = 0 := by
  have hone : (0 : ℚ) < unitsInOne := Nat.cast_pos.mpr (twoTo_pos 1074)
  simp only [IsNearest, ne_eq, value_eq_iff, abs_value_sub, div_lt_div_iff_of_pos_right hone,
    div_left_inj' hone.ne', Nat.cast_lt, Nat.cast_inj]

theorem IsNearest.value_le (hx : x.IsNearest i) (hy : y.IsNearest j) (h : i < j) :
    x.value ≤ y.value := by
  by_contra hover
  have hlt : y.value < x.value := lt_of_not_ge hover
  have hij : (i : ℚ) < j := Int.cast_lt.mpr h
  have hxi : |x.value - i| ≤ |y.value - i| := (hx y hlt.ne).elim le_of_lt fun h => h.1.le
  have hyj : |y.value - j| ≤ |x.value - j| := (hy x hlt.ne').elim le_of_lt fun h => h.1.le
  have hi : x.value + y.value ≤ 2 * i := by
    have hself := le_abs_self (x.value - i)
    rcases abs_cases (y.value - i) with ⟨habs, -⟩ | ⟨habs, -⟩ <;> linarith
  have hj : 2 * j ≤ x.value + y.value := by
    have hself := neg_le_abs (y.value - j)
    rcases abs_cases (x.value - j) with ⟨habs, -⟩ | ⟨habs, -⟩ <;> linarith
  linarith

theorem isNearest_of_value_eq (h : x.value = i) : x.IsNearest i := by
  intro y hy
  have hzero : |x.value - i| = 0 := by rw [h, sub_self, abs_zero]
  have hpos : 0 < |y.value - i| := abs_pos.mpr (sub_ne_zero.mpr fun heq => hy (heq.trans h.symm))
  exact Or.inl (hzero ▸ hpos)

theorem IsNearest.value_eq_of (hx : x.IsNearest i) (hy : y.value = i) : x.value = i := by
  by_contra hne
  have hzero : |y.value - i| = 0 := by rw [hy, sub_self, abs_zero]
  have hpos : 0 < |x.value - i| := abs_pos.mpr (sub_ne_zero.mpr hne)
  have hapart : y.value ≠ x.value := fun h => hne (h.symm.trans hy)
  rcases hx y hapart with hlt | ⟨heq, -⟩
  · linarith
  · linarith

/-- A whole number that is a value is not overtaken by rounding. -/
theorem IsNearest.le_value_of (hy : y.IsNearest j) (hx : x.value = i) (h : i ≤ j) :
    (i : ℚ) ≤ y.value := by
  rcases h.lt_or_eq with hlt | rfl
  · rw [← hx]
    exact (isNearest_of_value_eq hx).value_le hy hlt
  · exact (hy.value_eq_of hx).ge

theorem IsNearest.value_le_of (hy : y.IsNearest j) (hx : x.value = i) (h : j ≤ i) :
    y.value ≤ i := by
  rcases h.lt_or_eq with hlt | rfl
  · rw [← hx]
    exact hy.value_le (isNearest_of_value_eq hx) hlt
  · exact (hy.value_eq_of hx).le

end Nearest

end Finite64
end StageGate
