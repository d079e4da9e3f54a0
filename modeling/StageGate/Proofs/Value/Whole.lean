import StageGate.Proofs.Binary64.Nearest
import StageGate.Proofs.Value.Coherence

/-! Conditions on two whole numbers: equality looks at their digits, order at the binary64 numbers
nearest to them. -/
namespace StageGate

theorem natAbs_lt_twoTo (n : Int64) : n.toInt.natAbs < twoTo 1023 := by
  have hbound : n.toInt.natAbs ≤ twoTo 63 := by
    have hpower : twoTo 63 = 9223372036854775808 := rfl
    have hleast := n.le_toInt
    have hmost := n.toInt_lt
    omega
  exact hbound.trans_lt (twoTo_lt (by decide))

namespace Value

variable {a b : Int64}

theorem trimmedText_int (n : Int64) : (int n).trimmedText = toString n.toInt := by
  rw [trimmedText, toText, Text.trim, Text.trimChars_toString, String.ofList_toList]

theorem holds_equal_int_iff : (int a).Holds .equal (int b) ↔ a = b := by
  rw [holds_equal_iff rfl, trimmedText_int, trimmedText_int]
  constructor
  · intro h
    have hread := Text.int64?_toString a
    rw [h, Text.int64?_toString] at hread
    exact (Option.some.inj hread).symm
  · rintro rfl
    rfl

/-- Whole numbers come in the order of the numbers nearest to them. -/
theorem exists_nearest : ∃ nearest : Int64 → Finite64,
    (∀ n, (nearest n).IsNearest n.toInt) ∧ ∀ a b : Int64,
      (int a).compareTo (int b) = .ok (compare (nearest a).value (nearest b).value) := by
  choose nearest hofInt hnearest using fun n : Int64 => Binary64.isNearest_ofInt (natAbs_lt_twoTo n)
  refine ⟨nearest, hnearest, fun a b => ?_⟩
  have hcompare := Finite64.compare_position (nearest a) (nearest b)
  rw [← hofInt, ← hofInt] at hcompare
  simp only [compareTo, number?, compareNumbers, hcompare]

theorem coerce_toString (a b : Int64) :
    (string (toString b.toInt)).coerce (int a) = some (int b) := by
  simp only [coerce, Text.trimChars_toString, Text.int64?_toString]
  rfl

theorem compareTo_toString (a b : Int64) :
    (int a).compareTo (string (toString b.toInt)) = (int a).compareTo (int b) := by
  have hscale : (int a).scale? = some .number := rfl
  have hbrought : (string (toString b.toInt)).broughtTo (int a) = (int b).broughtTo (int a) := by
    rw [broughtTo, coerce_toString]
    rfl
  rw [compareTo_eq hscale (fun h => by cases h), compareTo_eq hscale (fun h => by cases h),
    hbrought]

/-- A whole number and its decimal text are expected alike. -/
theorem test_toString (a b : Int64) (op : Operator) :
    (int a).test op.symbol (string (toString b.toInt)) = (int a).test op.symbol (int b) := by
  have htext : (string (toString b.toInt)).trimmedText = (int b).trimmedText := rfl
  exact test_congr rfl htext (compareTo_toString a b) op

/-- Order is that of the integers, and goes with equality. -/
structure FollowsIntegers (a b : Int64) : Prop where
  below : (int a).Holds .below (int b) ↔ a.toInt < b.toInt
  above : (int a).Holds .above (int b) ↔ b.toInt < a.toInt
  unique : ∃! op, op ∈ [Operator.below, .equal, .above] ∧ (int a).Holds op (int b)

theorem existsUnique_of_trichotomy {i j : ℤ} {holds : Operator → Prop}
    (hbelow : holds .below ↔ i < j) (hequal : holds .equal ↔ i = j)
    (habove : holds .above ↔ j < i) :
    ∃! op, op ∈ [Operator.below, .equal, .above] ∧ holds op := by
  have hmem (op : Operator) :
      op ∈ [Operator.below, .equal, .above] ↔ op = .below ∨ op = .equal ∨ op = .above := by simp
  simp only [hmem]
  rcases lt_trichotomy i j with h | h | h
  · refine ⟨.below, ⟨Or.inl rfl, hbelow.mpr h⟩, ?_⟩
    rintro op ⟨rfl | rfl | rfl, hholds⟩
    · rfl
    · exact (h.ne (hequal.mp hholds)).elim
    · exact (h.asymm (habove.mp hholds)).elim
  · refine ⟨.equal, ⟨Or.inr (Or.inl rfl), hequal.mpr h⟩, ?_⟩
    rintro op ⟨rfl | rfl | rfl, hholds⟩
    · exact ((hbelow.mp hholds).ne h).elim
    · rfl
    · exact ((habove.mp hholds).ne' h).elim
  · refine ⟨.above, ⟨Or.inr (Or.inr rfl), habove.mpr h⟩, ?_⟩
    rintro op ⟨rfl | rfl | rfl, hholds⟩
    · exact (h.asymm (hbelow.mp hholds)).elim
    · exact (h.ne' (hequal.mp hholds)).elim
    · rfl

section Nearest

variable {nearest : Int64 → Finite64}

theorem toInt_lt_of_value_lt (hnearest : ∀ n, (nearest n).IsNearest n.toInt)
    (h : (nearest a).value < (nearest b).value) : a.toInt < b.toInt := by
  by_contra hover
  rcases (le_of_not_gt hover).lt_or_eq with hlt | heq
  · exact h.not_ge ((hnearest b).value_le (hnearest a) hlt)
  · obtain rfl := Int64.toInt_inj.mp heq
    exact h.false

theorem value_lt_iff_toInt_lt (hnearest : ∀ n, (nearest n).IsNearest n.toInt)
    (hapart : (nearest a).value = (nearest b).value → a = b) :
    (nearest a).value < (nearest b).value ↔ a.toInt < b.toInt := by
  constructor
  · exact toInt_lt_of_value_lt hnearest
  · intro h
    refine lt_of_le_of_ne ((hnearest a).value_le (hnearest b) h) fun heq => ?_
    obtain rfl := hapart heq
    exact h.false

theorem eq_of_value_eq_of_small (hnearest : ∀ n, (nearest n).IsNearest n.toInt)
    (hsmall : a.toInt.natAbs < 2 ^ 53 ∨ b.toInt.natAbs < 2 ^ 53)
    (h : (nearest a).value = (nearest b).value) : a = b := by
  rcases hsmall with hsmall | hsmall
  · exact Int64.toInt_inj.mp ((hnearest a).eq_of_value_eq (hnearest b) hsmall h)
  · exact Int64.toInt_inj.mp ((hnearest b).eq_of_value_eq (hnearest a) hsmall h.symm).symm

/-- Order and equality part ways where two numbers have one nearest number, and nowhere else. -/
theorem followsIntegers_iff (hnearest : ∀ n, (nearest n).IsNearest n.toInt)
    (hbelow : (int a).Holds .below (int b) ↔ (nearest a).value < (nearest b).value)
    (habove : (int a).Holds .above (int b) ↔ (nearest b).value < (nearest a).value) :
    FollowsIntegers a b ↔ ((nearest a).value = (nearest b).value → a = b) := by
  constructor
  · rintro ⟨-, -, op, ⟨hop, hholds⟩, -⟩ hsame
    simp only [List.mem_cons, List.not_mem_nil, or_false] at hop
    rcases hop with rfl | rfl | rfl
    · exact ((hbelow.mp hholds).ne hsame).elim
    · exact holds_equal_int_iff.mp hholds
    · exact ((habove.mp hholds).ne' hsame).elim
  · intro hapart
    have hlt := hbelow.trans (value_lt_iff_toInt_lt hnearest hapart)
    have hgt := habove.trans (value_lt_iff_toInt_lt hnearest fun h => (hapart h.symm).symm)
    have heq : (int a).Holds .equal (int b) ↔ a.toInt = b.toInt :=
      holds_equal_int_iff.trans Int64.toInt_inj.symm
    exact ⟨hlt, hgt, existsUnique_of_trichotomy hlt heq hgt⟩

end Nearest

/-- The conditions on two whole numbers, told by the number nearest to each. -/
structure FollowsNearest (nearest : Int64 → Finite64) (a b : Int64) : Prop where
  succeeds : ∀ op : Operator, ∃ holds, (int a).test op.symbol (int b) = .ok holds
  equal : (int a).Holds .equal (int b) ↔ a = b
  below : (int a).Holds .below (int b) ↔ (nearest a).value < (nearest b).value
  above : (int a).Holds .above (int b) ↔ (nearest b).value < (nearest a).value
  below_only : (int a).Holds .below (int b) → a.toInt < b.toInt
  above_only : (int a).Holds .above (int b) → b.toInt < a.toInt
  integers : FollowsIntegers a b ↔ ((nearest a).value = (nearest b).value → a = b)
  small : a.toInt.natAbs < 2 ^ 53 ∨ b.toInt.natAbs < 2 ^ 53 → FollowsIntegers a b
  text : ∀ op : Operator,
    (int a).test op.symbol (string (toString b.toInt)) = (int a).test op.symbol (int b)

/-- Conditions on whole numbers: equality is that of the integers, order that of the nearest
numbers. -/
theorem whole_numbers_follow_nearest : ∃ nearest : Int64 → Finite64,
    (∀ n, (nearest n).IsNearest n.toInt) ∧ ∀ a b, FollowsNearest nearest a b := by
  obtain ⟨nearest, hnearest, hcompare⟩ := exists_nearest
  refine ⟨nearest, hnearest, fun a b => ?_⟩
  have hbelow := holds_below_iff rfl (hcompare a b)
  have habove := holds_above_iff rfl (hcompare a b)
  have hintegers := followsIntegers_iff hnearest hbelow habove
  exact {
    succeeds := exists_test rfl (hcompare a b)
    equal := holds_equal_int_iff
    below := hbelow
    above := habove
    below_only := fun h => toInt_lt_of_value_lt hnearest (hbelow.mp h)
    above_only := fun h => toInt_lt_of_value_lt hnearest (habove.mp h)
    integers := hintegers
    small := fun h => hintegers.mpr (eq_of_value_eq_of_small hnearest h)
    text := test_toString a b }

/-- Beyond 2^53 a whole number may be neither above nor equal to the one before it. -/
theorem successor_neither_equal_nor_above :
    (∀ op ∈ [Operator.below, .equal, .above],
      (int 9007199254740993).test op.symbol (int 9007199254740992) = .ok false) ∧
    ¬∀ a b, FollowsIntegers a b := by
  have hnone : ∀ op ∈ [Operator.below, .equal, .above],
      (int 9007199254740993).test op.symbol (int 9007199254740992) = .ok false := by
    intro op hop
    simp only [List.mem_cons, List.not_mem_nil, or_false] at hop
    rcases hop with rfl | rfl | rfl <;> rfl
  refine ⟨hnone, fun h => ?_⟩
  obtain ⟨op, ⟨hop, hholds⟩, -⟩ := (h 9007199254740993 9007199254740992).unique
  cases hholds.symm.trans (hnone op hop)

end Value
end StageGate
