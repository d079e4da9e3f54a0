import Mathlib.Logic.ExistsUnique
import StageGate.Proofs.DateTime.Text
import StageGate.Value.Comparison

/-! Conditions on two date-times: equality looks at their texts, order at the date-times. -/
namespace StageGate

variable {a b : DateTime} {op : Operator}

theorem Clock.compare_eq_iff {a b : Clock} : a.compare b = .eq ↔ a = b := by
  obtain ⟨hour, minute, second, nanosecond, ha⟩ := a
  obtain ⟨hour', minute', second', nanosecond', hb⟩ := b
  have hbounds := And.intro ha hb
  unfold IsClock at hbounds
  simp only [compare, secondOfDay, Ordering.then_eq_eq, Nat.compare_eq_eq, Clock.mk.injEq]
  omega

theorem Date.compare_eq_iff {a b : Date} : a.compare b = .eq ↔ a = b := by
  obtain ⟨year, month, day, ha⟩ := a
  obtain ⟨year', month', day', hb⟩ := b
  simp only [compare, Ordering.then_eq_eq, Std.LawfulEqOrd.compare_eq_iff_eq, Date.mk.injEq]

theorem DateTime.compare_eq_iff : a.compare b = .eq ↔ a = b := by
  obtain ⟨date, clock⟩ := a
  obtain ⟨date', clock'⟩ := b
  simp only [compare, Ordering.then_eq_eq, Date.compare_eq_iff, Clock.compare_eq_iff,
    DateTime.mk.injEq]

namespace Operator

theorem read_symbol (op : Operator) : read op.symbol = .ok op := by
  cases op <;> rfl

/-- What an operator asks of two date-times. -/
def Relates (op : Operator) (a b : DateTime) : Prop :=
  match op with
  | equal => a.toTheSecond = b.toTheSecond
  | notEqual => a.toTheSecond ≠ b.toTheSecond
  | above => a.compare b = .gt
  | atLeast => a.compare b ≠ .lt
  | below => a.compare b = .lt
  | atMost => a.compare b ≠ .gt

instance (op : Operator) (a b : DateTime) : Decidable (op.Relates a b) := by
  cases op <;> unfold Relates <;> infer_instance

/-- Of two date-times one of which comes first, this is all that holds unless their texts agree. -/
theorem existsUnique_of_relates {side : Operator} (hside : side = below ∨ side = above)
    (hrelates : side.Relates a b) :
    (∃! op, op ∈ [below, equal, above] ∧ op.Relates a b) ↔ a.toTheSecond ≠ b.toTheSecond := by
  have hmem : side ∈ [below, equal, above] := by rcases hside with rfl | rfl <;> simp
  constructor
  · rintro ⟨op, -, hunique⟩ hsame
    have hequal := hunique equal ⟨by simp, hsame⟩
    have hagain := hunique side ⟨hmem, hrelates⟩
    rcases hside with rfl | rfl <;> cases hequal.trans hagain.symm
  · intro hapart
    refine ⟨side, ⟨hmem, hrelates⟩, ?_⟩
    rintro op ⟨hop, hother⟩
    simp only [List.mem_cons, List.not_mem_nil, or_false] at hop
    rcases hop with rfl | rfl | rfl
    · rcases hside with rfl | rfl
      · rfl
      · cases hrelates.symm.trans hother
    · exact (hapart hother).elim
    · rcases hside with rfl | rfl
      · cases hrelates.symm.trans hother
      · rfl

theorem existsUnique_relates_iff :
    (∃! op, op ∈ [below, equal, above] ∧ op.Relates a b) ↔
      (a.toTheSecond = b.toTheSecond → a = b) := by
  have hdiffer (hne : a ≠ b) :
      (a.toTheSecond = b.toTheSecond → a = b) ↔ a.toTheSecond ≠ b.toTheSecond :=
    ⟨fun h hsame => hne (h hsame), fun h hsame => (h hsame).elim⟩
  cases horder : a.compare b with
  | eq =>
    obtain rfl := DateTime.compare_eq_iff.mp horder
    refine iff_of_true ⟨equal, ⟨by simp, rfl⟩, ?_⟩ fun _ => rfl
    rintro op ⟨hop, hrelates⟩
    simp only [List.mem_cons, List.not_mem_nil, or_false] at hop
    rcases hop with rfl | rfl | rfl
    · cases horder.symm.trans hrelates
    · rfl
    · cases horder.symm.trans hrelates
  | lt =>
    have hne : a ≠ b := fun heq => by cases horder.symm.trans (DateTime.compare_eq_iff.mpr heq)
    rw [hdiffer hne]
    exact existsUnique_of_relates (Or.inl rfl) horder
  | gt =>
    have hne : a ≠ b := fun heq => by cases horder.symm.trans (DateTime.compare_eq_iff.mpr heq)
    rw [hdiffer hne]
    exact existsUnique_of_relates (Or.inr rfl) horder

end Operator

namespace Value

/-- The condition comes out true. -/
def Holds (actual : Value) (op : Operator) (expected : Value) : Prop :=
  actual.test op.symbol expected = .ok true

theorem test_symbol {actual : Value} (h : actual.isNull = false) (op : Operator)
    (expected : Value) : actual.test op.symbol expected = actual.satisfies op expected := by
  rw [test, h, Operator.read_symbol]
  rfl

/-- Every test of two date-times has a result. -/
theorem test_dateTime (a b : DateTime) (op : Operator) :
    (dateTime a).test op.symbol (dateTime b) = .ok (decide (op.Relates a b)) := by
  have htext : ((dateTime a).trimmedText = (dateTime b).trimmedText) ↔
      a.toTheSecond = b.toTheSecond := by
    rw [trimmedText, trimmedText, toText, toText, DateTime.trim_toText, DateTime.trim_toText,
      DateTime.toText_eq_iff]
  rw [test_symbol rfl]
  cases op with
  | equal | notEqual =>
    refine congrArg Except.ok (Bool.eq_iff_iff.mpr ?_)
    rw [decide_eq_true_iff]
    simp [Operator.Relates, htext]
  | above | atLeast | below | atMost =>
    refine congrArg Except.ok (Bool.eq_iff_iff.mpr ?_)
    rw [decide_eq_true_iff]
    simp [Operator.Relates]

theorem holds_dateTime_iff : (dateTime a).Holds op (dateTime b) ↔ op.Relates a b := by
  rw [Holds, test_dateTime, Except.ok.injEq, decide_eq_true_iff]

/-- Equality and order of two date-times fit together if and only if the two are no different
moments of one second. -/
theorem dateTime_trichotomy_iff (a b : DateTime) :
    (∀ op : Operator, ∃ holds, (dateTime a).test op.symbol (dateTime b) = .ok holds) ∧
    ((dateTime a).Holds .equal (dateTime b) ↔ a.toTheSecond = b.toTheSecond) ∧
    ((dateTime a).Holds .atMost (dateTime b) ∧ (dateTime a).Holds .atLeast (dateTime b) ↔
      a = b) ∧
    ((∃! op, op ∈ [Operator.below, .equal, .above] ∧ (dateTime a).Holds op (dateTime b)) ↔
      (a.toTheSecond = b.toTheSecond → a = b)) ∧
    (((dateTime a).Holds .equal (dateTime b) ↔
        (dateTime a).Holds .atMost (dateTime b) ∧ (dateTime a).Holds .atLeast (dateTime b)) ↔
      (a.toTheSecond = b.toTheSecond → a = b)) := by
  have hboth : (dateTime a).Holds .atMost (dateTime b) ∧ (dateTime a).Holds .atLeast (dateTime b) ↔
      a = b := by
    rw [holds_dateTime_iff, holds_dateTime_iff, ← DateTime.compare_eq_iff]
    unfold Operator.Relates
    cases a.compare b <;> simp
  refine ⟨fun op => ⟨_, test_dateTime a b op⟩, holds_dateTime_iff, hboth, ?_, ?_⟩
  · simp only [holds_dateTime_iff]
    exact Operator.existsUnique_relates_iff
  · rw [hboth, holds_dateTime_iff]
    constructor
    · intro h
      exact h.mp
    · intro h
      exact ⟨h, fun heq => congrArg DateTime.toTheSecond heq⟩

def newYear : DateTime := ⟨⟨2020, 1, 1, by decide⟩, .midnight⟩

def newYearAndHalf : DateTime := ⟨⟨2020, 1, 1, by decide⟩, ⟨0, 0, 0, 500000000, by decide⟩⟩

/-- Midnight comes before the half of its second, and is equal to it. -/
theorem newYear_equal_and_below :
    DateTime.read? "2020-01-01" = some newYear ∧
    DateTime.read? "2020-01-01T00:00:00.5" = some newYearAndHalf ∧
    ¬∀ a b : DateTime,
      (∃! op, op ∈ [Operator.below, .equal, .above] ∧ (dateTime a).Holds op (dateTime b)) ∧
      ((dateTime a).Holds .equal (dateTime b) ↔
        (dateTime a).Holds .atMost (dateTime b) ∧ (dateTime a).Holds .atLeast (dateTime b)) := by
  refine ⟨by decide, by decide, fun h => ?_⟩
  have hunique := (h newYear newYearAndHalf).1
  simp only [holds_dateTime_iff] at hunique
  have hsame := Operator.existsUnique_relates_iff.mp hunique (by decide)
  exact absurd hsame (by decide)

end Value
end StageGate
