import StageGate.Proofs.Binary64.Value

/-! A whole number becomes the binary64 number nearest to it, and up to 53 binary digits itself. -/
namespace StageGate

namespace Binary64

section Whole

variable {n : ℕ}

theorem log2_bounds (hn : n ≠ 0) : twoTo n.log2 ≤ n ∧ n < 2 * twoTo n.log2 := by
  have hself := (Nat.log2_eq_iff hn).mp rfl
  rwa [Nat.pow_succ'] at hself

theorem log2_lt_of_lt {k : ℕ} (hn : n ≠ 0) (h : n < twoTo k) : n.log2 < k :=
  (Nat.log2_lt hn).mpr h

theorem hidden_eq : Finite64.hidden = twoTo 52 := rfl

/-- The last of 53 binary digits. -/
theorem lastPlace_whole (hn : n ≠ 0) : lastPlace n 1 = n.log2 - 52 := by
  obtain ⟨hleast, -⟩ := log2_bounds hn
  have hone : Nat.log2 1 = 0 := by decide
  have hfull : ¬n * twoTo (-((n.log2 : ℤ) - 53)).toNat /
      (1 * twoTo ((n.log2 : ℤ) - 53).toNat) < 2 * Finite64.hidden := by
    rw [Nat.not_lt, Nat.one_mul, Nat.le_div_iff_mul_le (twoTo_pos _)]
    have hpower : 2 * Finite64.hidden * twoTo ((n.log2 : ℤ) - 53).toNat =
        twoTo n.log2 * twoTo (-((n.log2 : ℤ) - 53)).toNat := by
      rw [hidden_eq, ← twoTo_succ, ← twoTo_add, ← twoTo_add]
      congr 1
      omega
    rw [hpower]
    exact Nat.mul_le_mul_right _ hleast
  simp only [lastPlace, inUnits, hone, Nat.cast_zero, sub_zero, if_neg hfull]
  omega

section Scales

variable {a d n p u x x' y y' : ℕ}

theorem lt_iff_of_mul_eq (ha : 0 < a) (hp : 0 < p) (h : x * a = y * p) (h' : x' * a = y' * p) :
    x < x' ↔ y < y' := by
  rw [← Nat.mul_lt_mul_right ha, h, h', Nat.mul_lt_mul_right hp]

theorem eq_iff_of_mul_eq (ha : 0 < a) (hp : 0 < p) (h : x * a = y * p) (h' : x' * a = y' * p) :
    x = x' ↔ y = y' := by
  rw [← Nat.mul_left_inj ha.ne', h, h', Nat.mul_left_inj hp.ne']

/-- Division with a rest on one scale is division with the corresponding rest on another. -/
theorem exists_rest (ha : 0 < a) (hstep : u * a = d * p) :
    ∃ t, n * p = n * a / d * u + t ∧ t * a = n * a % d * p := by
  have hsplit := Nat.div_add_mod' (n * a) d
  generalize n * a / d = m at *
  generalize n * a % d = r at *
  have hlow : m * u ≤ n * p := by
    apply Nat.le_of_mul_le_mul_right _ ha
    calc m * u * a = m * d * p := by rw [Nat.mul_assoc, hstep, Nat.mul_assoc]
      _ ≤ n * a * p := Nat.mul_le_mul_right p (by omega)
      _ = n * p * a := Nat.mul_right_comm n a p
  obtain ⟨t, ht⟩ := Nat.exists_eq_add_of_le hlow
  refine ⟨t, ht, ?_⟩
  apply Nat.add_left_cancel (n := m * d * p)
  calc m * d * p + t * a = (m * u + t) * a := by
        rw [Nat.add_mul, Nat.mul_assoc m u, hstep, Nat.mul_assoc]
    _ = n * a * p := by rw [← ht, Nat.mul_right_comm]
    _ = m * d * p + r * p := by rw [← hsplit, Nat.add_mul]

theorem div_bounds {h low : ℕ} (ha : 0 < a) (hd : 0 < d) (hfull : h * d = low * a)
    (hleast : low ≤ n) (hmost : n < 2 * low) : h ≤ n * a / d ∧ n * a / d < 2 * h := by
  constructor
  · rw [Nat.le_div_iff_mul_le hd, hfull]
    exact Nat.mul_le_mul_right a hleast
  · rw [Nat.div_lt_iff_lt_mul hd, Nat.mul_assoc, hfull, ← Nat.mul_assoc]
    exact Nat.mul_lt_mul_of_pos_right hmost ha

end Scales

/-- A whole number lies `t` above a full significand, and is moved to the nearer of the two
significands around it, from the middle to the even one. -/
theorem nearestRank_whole (hn : n ≠ 0) :
    ∃ m t : ℕ, (Finite64.hidden ≤ m ∧ m < 2 * Finite64.hidden) ∧ t < twoTo (n.log2 + 1022) ∧
      n * Finite64.unitsInOne = m * twoTo (n.log2 + 1022) + t ∧
      nearestRank n 1 = (n.log2 + 1022) * Finite64.hidden +
        if twoTo (n.log2 + 1022) < 2 * t ∨ twoTo (n.log2 + 1022) = 2 * t ∧ m % 2 = 1 then m + 1
        else m := by
  obtain ⟨hleast, hmost⟩ := log2_bounds hn
  have ha := twoTo_pos (52 - n.log2)
  have hd := twoTo_pos (n.log2 - 52)
  have hone : 0 < Finite64.unitsInOne := twoTo_pos 1074
  have hfull : Finite64.hidden * twoTo (n.log2 - 52) = twoTo n.log2 * twoTo (52 - n.log2) := by
    rw [hidden_eq, ← twoTo_add, ← twoTo_add]
    congr 1
    omega
  have hstep : twoTo (n.log2 + 1022) * twoTo (52 - n.log2) =
      twoTo (n.log2 - 52) * Finite64.unitsInOne := by
    rw [Finite64.unitsInOne, ← twoTo_add, ← twoTo_add]
    congr 1
    omega
  obtain ⟨t, hsum, ht⟩ := exists_rest (n := n) ha hstep
  have htwice := congrArg (2 * ·) ht
  simp only [← Nat.mul_assoc] at htwice
  have hover := lt_iff_of_mul_eq ha hone hstep htwice
  have hmiddle := eq_iff_of_mul_eq ha hone hstep htwice
  refine ⟨_, t, div_bounds ha hd hfull hleast hmost, ?_, hsum, ?_⟩
  · exact (lt_iff_of_mul_eq ha hone ht hstep).mpr (Nat.mod_lt _ hd)
  · have hdown : (-((n.log2 : ℤ) - 52)).toNat = 52 - n.log2 := by omega
    have hup : ((n.log2 : ℤ) - 52).toNat = n.log2 - 52 := by omega
    have hrank : ((n.log2 : ℤ) - 52 + 1074).toNat = n.log2 + 1022 := by omega
    simp only [nearestRank, inUnits, lastPlace_whole hn, hdown, hup, hrank, Nat.one_mul, hover,
      hmiddle, Bool.or_eq_true, Bool.and_eq_true, decide_eq_true_eq, beq_iff_eq, gt_iff_lt,
      eq_comm (a := twoTo (n.log2 - 52))]

end Whole
end Binary64

namespace Finite64

variable {n : ℕ} {i : ℤ}

theorem significand_mod_two (x : Finite64) : x.significand % 2 = x.rank % 2 := by
  have heven : hidden % 2 = 0 := by decide
  have hdvd : 2 ∣ hidden := by decide
  rw [significand]
  split
  · rfl
  · rw [Nat.add_mod, heven, Nat.zero_add, Nat.mod_mod, Nat.mod_mod_of_dvd _ hdvd]

/-- Magnitudes lie below a significand or above the next. -/
theorem units_le_or_ge {e m : ℕ} (hleast : hidden ≤ m) (hmost : m < 2 * hidden) (rank : ℕ) :
    units rank ≤ m * twoTo e ∨ (m + 1) * twoTo e ≤ units rank := by
  rw [← units_eq hleast hmost.le, ← units_eq (by omega) (by omega), ← Nat.add_assoc,
    strictMono_units.le_iff_le, strictMono_units.le_iff_le]
  omega

theorem add_mod_two (e m : ℕ) : (e * hidden + m) % 2 = m % 2 := by
  have heven : hidden % 2 = 0 := by decide
  rw [Nat.add_mod, Nat.mul_mod, heven, Nat.mul_zero, Nat.zero_mod, Nat.zero_add, Nat.mod_mod]

/-- A whole number lies `t` above one magnitude and short of the next, which is `u` above it. It is
given the rank of the nearer, and from the middle the even rank. -/
theorem exists_gap (hn : n ≠ 0) :
    ∃ low u t m : ℕ, t < u ∧ n * unitsInOne = low + t ∧
      (∀ rank, units rank ≤ low ∨ low + u ≤ units rank) ∧
      ((u < 2 * t ∨ u = 2 * t ∧ m % 2 = 1) ∧ units (Binary64.nearestRank n 1) = low + u ∧
          Binary64.nearestRank n 1 % 2 = (m + 1) % 2 ∨
        ¬(u < 2 * t ∨ u = 2 * t ∧ m % 2 = 1) ∧ units (Binary64.nearestRank n 1) = low ∧
          Binary64.nearestRank n 1 % 2 = m % 2) := by
  obtain ⟨m, t, ⟨hleast, hmost⟩, ht, hsum, hrank⟩ := Binary64.nearestRank_whole hn
  refine ⟨_, _, t, m, ht, hsum, ?_, ?_⟩
  · rw [← Nat.succ_mul]
    exact units_le_or_ge hleast hmost
  · by_cases hup : twoTo (n.log2 + 1022) < 2 * t ∨ twoTo (n.log2 + 1022) = 2 * t ∧ m % 2 = 1
    · rw [if_pos hup] at hrank
      left
      rw [hrank, units_eq (by omega) (by omega), Nat.succ_mul m]
      exact ⟨hup, rfl, add_mod_two _ _⟩
    · rw [if_neg hup] at hrank
      right
      rw [hrank, units_eq hleast hmost.le]
      exact ⟨hup, rfl, add_mod_two _ _⟩

/-- Nothing beside the gap from `low` to `low + u` is nearer to `low + t` than the end chosen. -/
theorem chosen_end_nearest {low u t m w parity : ℕ} {z : ℤ} (ht : t < u)
    (hchosen : (u < 2 * t ∨ u = 2 * t ∧ m % 2 = 1) ∧ w = low + u ∧ parity = (m + 1) % 2 ∨
      ¬(u < 2 * t ∨ u = 2 * t ∧ m % 2 = 1) ∧ w = low ∧ parity = m % 2)
    (hz : z ≤ low ∨ low + u ≤ z) (hne : z ≠ w) :
    (w - (low + t : ℕ) : ℤ).natAbs < (z - (low + t : ℕ)).natAbs ∨
      (w - (low + t : ℕ) : ℤ).natAbs = (z - (low + t : ℕ)).natAbs ∧ parity = 0 := by
  omega

/-- Numbers of the other sign lie beyond zero, so below the gap. -/
theorem beside_of_units {low u : ℕ} (s : Bool) (y : Finite64)
    (h : units y.rank ≤ low ∨ low + u ≤ units y.rank) :
    (if s then -y.scaled else y.scaled) ≤ low ∨
      low + u ≤ (if s then -y.scaled else y.scaled) := by
  unfold scaled
  generalize units y.rank = v at *
  cases s <;> cases y.negative <;> simp only [Bool.false_eq_true, if_true, if_false] <;> omega

/-- The number in the nearest rank is nearest under either sign. -/
theorem isNearest_of_rank (hn : n ≠ 0) {x : Finite64}
    (hx : x.rank.val = Binary64.nearestRank n 1) :
    x.IsNearest (if x.negative then -n else n) := by
  obtain ⟨low, u, t, m, ht, hsum, hbeside, hchosen⟩ := exists_gap hn
  rw [← hx, ← significand_mod_two] at hchosen
  rw [isNearest_iff]
  intro y hy
  have hz := beside_of_units x.negative y (hbeside y.rank)
  have hnearest := chosen_end_nearest ht hchosen hz
  rw [← hsum, Nat.cast_mul] at hnearest
  cases hs : x.negative with
  | false =>
    have hx' : x.scaled = units x.rank := by rw [scaled, hs, if_neg Bool.false_ne_true]
    simp only [hs, Bool.false_eq_true, if_false, ← hx'] at hnearest ⊢
    exact hnearest hy
  | true =>
    have hx' : (units x.rank : ℤ) = -x.scaled := by rw [scaled, hs, if_pos rfl, Int.neg_neg]
    have hflip (a b : ℤ) : (-a - b).natAbs = (a - -b).natAbs := by omega
    simp only [hs, if_true, hx', hflip, ← Int.neg_mul] at hnearest ⊢
    exact hnearest fun h => hy (Int.neg_inj.mp h)

theorem value_of_units {x : Finite64} (hsign : x.negative = decide (i < 0))
    (hunits : units x.rank = i.natAbs * unitsInOne) : x.value = i := by
  have hone : (unitsInOne : ℚ) ≠ 0 := Nat.cast_ne_zero.mpr (twoTo_pos 1074).ne'
  have hscaled : x.scaled = i * unitsInOne := by
    rw [scaled, hunits, hsign, Nat.cast_mul]
    simp only [decide_eq_true_eq]
    split
    · rw [← Int.neg_mul]
      congr 1
      omega
    · congr 1
      omega
  rw [value_eq, hscaled, Int.cast_mul, Int.cast_natCast, mul_div_cancel_right₀ _ hone]

theorem exists_units_eq (h : n ≤ 2 * hidden) :
    ∃ rank, rank < Binary64.infinityRank ∧ units rank = n * unitsInOne := by
  by_cases hn : n = 0
  · exact ⟨0, by decide, by rw [hn, Nat.zero_mul, units_zero]⟩
  · obtain ⟨hleast, hmost⟩ := Binary64.log2_bounds hn
    have hinfinity : Binary64.infinityRank = 2047 * hidden := by decide
    by_cases hsmall : n < hidden
    · have hlog : n.log2 < 52 := Binary64.log2_lt_of_lt hn hsmall
      have hfull : twoTo n.log2 * twoTo (52 - n.log2) = hidden := by
        rw [← twoTo_add, Nat.add_sub_cancel' hlog.le]
        rfl
      have hm : hidden ≤ n * twoTo (52 - n.log2) :=
        hfull ▸ Nat.mul_le_mul_right _ hleast
      have hm' : n * twoTo (52 - n.log2) ≤ 2 * hidden := by
        rw [← hfull, ← Nat.mul_assoc]
        exact Nat.mul_le_mul_right _ hmost.le
      have hproduct : (n.log2 + 1022) * hidden ≤ 1074 * hidden := Nat.mul_le_mul_right _ (by omega)
      refine ⟨(n.log2 + 1022) * hidden + n * twoTo (52 - n.log2), by omega, ?_⟩
      have hexponent : 52 - n.log2 + (n.log2 + 1022) = 1074 := by omega
      rw [units_eq hm hm', unitsInOne, Nat.mul_assoc, ← twoTo_add, hexponent]
    · refine ⟨1074 * hidden + n, by omega, ?_⟩
      rw [units_eq (by omega) h, unitsInOne]

/-- Every whole number of up to 53 binary digits is a value. -/
theorem exists_value_eq (h : i.natAbs ≤ 2 * hidden) : ∃ x : Finite64, x.value = i := by
  obtain ⟨rank, hrank, hunits⟩ := exists_units_eq h
  exact ⟨⟨decide (i < 0), ⟨rank, hrank⟩⟩, value_of_units rfl hunits⟩

/-- A whole number below 2^53 shares its nearest number with no other. -/
theorem IsNearest.eq_of_value_eq {x y : Finite64} {j : ℤ} (hx : x.IsNearest i) (hy : y.IsNearest j)
    (hsmall : i.natAbs < 2 * hidden) (h : x.value = y.value) : i = j := by
  obtain ⟨z, hz⟩ := exists_value_eq hsmall.le
  have hself : x.value = i := hx.value_eq_of hz
  rcases lt_trichotomy i j with hlt | heq | hgt
  · obtain ⟨z, hz⟩ := exists_value_eq (i := i + 1) (by omega)
    have hnext := hy.le_value_of hz hlt
    push_cast at hnext
    linarith
  · exact heq
  · obtain ⟨z, hz⟩ := exists_value_eq (i := i - 1) (by omega)
    have hprevious := hy.value_le_of hz (Int.le_sub_one_of_lt hgt)
    push_cast at hprevious
    linarith

end Finite64

namespace Binary64

variable {i : ℤ}

theorem nearestRank_lt {n : ℕ} (hn : n ≠ 0) (h : n < twoTo 1023) :
    nearestRank n 1 < infinityRank := by
  obtain ⟨m, t, ⟨hleast, hmost⟩, -, -, hrank⟩ := nearestRank_whole hn
  have hlog : n.log2 < 1023 := log2_lt_of_lt hn h
  have hinfinity : infinityRank = 2047 * Finite64.hidden := by decide
  have hproduct : (n.log2 + 1022) * Finite64.hidden ≤ 2044 * Finite64.hidden :=
    Nat.mul_le_mul_right _ (by omega)
  rw [hrank]
  split <;> omega

/-- A whole number becomes the number nearest to it. -/
theorem isNearest_ofInt (h : i.natAbs < twoTo 1023) :
    ∃ x : Finite64, ofInt i = .finite x ∧ x.IsNearest i := by
  by_cases hi : i.natAbs = 0
  · obtain rfl := Int.natAbs_eq_zero.mp hi
    refine ⟨Finite64.zero, rfl, fun y hy => Or.inl ?_⟩
    have hzero : Finite64.zero.value = (0 : ℤ) := by
      apply Finite64.value_of_units rfl
      rw [Int.natAbs_zero, Nat.zero_mul]
      exact Finite64.units_zero
    rw [hzero] at hy ⊢
    rw [sub_self, abs_zero]
    exact abs_pos.mpr (sub_ne_zero.mpr hy)
  · have hfinite := nearestRank_lt hi h
    have hnearest := Finite64.isNearest_of_rank hi
      (x := ⟨decide (i < 0), ⟨nearestRank i.natAbs 1, hfinite⟩⟩) rfl
    have hself : (if decide (i < 0) = true then -(i.natAbs : ℤ) else i.natAbs) = i := by
      simp only [decide_eq_true_eq]
      split <;> omega
    rw [hself] at hnearest
    refine ⟨_, ?_, hnearest⟩
    rw [ofInt, ofQuotient, if_neg hi]
    exact dif_pos hfinite

end Binary64
end StageGate
