import Mathlib.Data.String.Basic
import Mathlib.Order.Defs.LinearOrder
import StageGate.Proofs.DateTime.Order
import StageGate.Proofs.Value.Order
import StageGate.Proofs.Value.Scale

/-! How the six operators fit together. -/
namespace StageGate

namespace Operator

theorem accepts_atLeast (o : Ordering) : atLeast.accepts o = !below.accepts o := by
  cases o <;> rfl

theorem accepts_atMost (o : Ordering) : atMost.accepts o = !above.accepts o := by
  cases o <;> rfl

end Operator

namespace Value

variable {actual expected : Value} {op op' : Operator} {scale : Scale}

theorem test_equal (h : actual.isNull = false) (expected : Value) :
    actual.test Operator.equal.symbol expected =
      .ok (actual.trimmedText == expected.trimmedText) := by
  rw [test_symbol h]
  exact if_neg (by rw [h]; exact Bool.false_ne_true)

theorem test_notEqual (h : actual.isNull = false) (expected : Value) :
    actual.test Operator.notEqual.symbol expected =
      .ok !(actual.trimmedText == expected.trimmedText) := by
  rw [test_symbol h]
  exact if_neg (by rw [h]; exact Bool.false_ne_true)

theorem holds_equal_iff (h : actual.isNull = false) :
    actual.Holds .equal expected ↔ actual.trimmedText = expected.trimmedText := by
  rw [Holds, test_equal h, Except.ok.injEq, beq_iff_eq]

theorem test_ordering (h : actual.isNull = false) (hop : op.IsOrdering) (expected : Value) :
    actual.test op.symbol expected = (actual.compareTo expected).map op.accepts := by
  rw [test_symbol h, satisfies_ordering h hop]

theorem test_of_ok {order : Ordering} (h : actual.isNull = false) (hop : op.IsOrdering)
    (hok : actual.compareTo expected = .ok order) :
    actual.test op.symbol expected = .ok (op.accepts order) := by
  rw [test_ordering h hop, hok]
  rfl

/-- Every operator has a result for values that have an order. -/
theorem exists_test {order : Ordering} (h : actual.isNull = false)
    (hok : actual.compareTo expected = .ok order) (op : Operator) :
    ∃ holds, actual.test op.symbol expected = .ok holds := by
  by_cases hop : op.IsOrdering
  · exact ⟨_, test_of_ok h hop hok⟩
  · rw [test_symbol h]
    exact satisfies_equality actual expected hop

theorem test_eq_error_iff {e : Error} (h : actual.isNull = false) (hop : op.IsOrdering) :
    actual.test op.symbol expected = .error e ↔ actual.compareTo expected = .error e := by
  rw [test_symbol h, satisfies_eq_error_iff h hop]

theorem holds_of_ok {order : Ordering} (h : actual.isNull = false) (hop : op.IsOrdering)
    (hok : actual.compareTo expected = .ok order) :
    actual.Holds op expected ↔ op.accepts order = true := by
  rw [Holds, test_of_ok h hop hok, Except.ok.injEq]

/-- Nothing of the expected value matters but its text and its place. -/
theorem test_congr {other : Value} (h : actual.isNull = false)
    (htext : expected.trimmedText = other.trimmedText)
    (hcompare : actual.compareTo expected = actual.compareTo other) (op : Operator) :
    actual.test op.symbol expected = actual.test op.symbol other := by
  rw [test_symbol h, test_symbol h]
  unfold satisfies
  rw [htext, hcompare]

section Keys

variable {κ : Type} [LinearOrder κ] {k l : κ}

theorem holds_below_iff (h : actual.isNull = false)
    (hkey : actual.compareTo expected = .ok (compare k l)) :
    actual.Holds .below expected ↔ k < l := by
  have hop : Operator.below.IsOrdering := ⟨nofun, nofun⟩
  rw [holds_of_ok h hop hkey, ← compare_lt_iff_lt]
  cases compare k l <;> decide

theorem holds_above_iff (h : actual.isNull = false)
    (hkey : actual.compareTo expected = .ok (compare k l)) :
    actual.Holds .above expected ↔ l < k := by
  have hop : Operator.above.IsOrdering := ⟨nofun, nofun⟩
  rw [holds_of_ok h hop hkey, ← compare_gt_iff_gt]
  cases compare k l <;> decide

theorem holds_atMost_iff (h : actual.isNull = false)
    (hkey : actual.compareTo expected = .ok (compare k l)) :
    actual.Holds .atMost expected ↔ k ≤ l := by
  have hop : Operator.atMost.IsOrdering := ⟨nofun, nofun⟩
  rw [holds_of_ok h hop hkey, ← compare_le_iff_le]
  cases compare k l <;> decide

end Keys

/-- Both conditions have a result, and one is the opposite of the other. -/
def Opposed (actual : Value) (op op' : Operator) (expected : Value) : Prop :=
  ∃ holds, actual.test op.symbol expected = .ok holds ∧
    actual.test op'.symbol expected = .ok !holds

theorem opposed_of_ok {order : Ordering} (h : actual.isNull = false) (hop : op.IsOrdering)
    (hop' : op'.IsOrdering) (haccepts : op'.accepts order = !op.accepts order)
    (hok : actual.compareTo expected = .ok order) : actual.Opposed op op' expected := by
  refine ⟨op.accepts order, test_of_ok h hop hok, ?_⟩
  rw [test_of_ok h hop' hok, haccepts]

/-- How the conditions on two values fit together, and when the ordering ones fail. -/
structure Coheres (actual expected : Value) : Prop where
  equality : actual.Opposed .equal .notEqual expected
  order : (∃ e, ∀ op : Operator, op.IsOrdering → actual.test op.symbol expected = .error e) ∨
    actual.Opposed .below .atLeast expected ∧ actual.Opposed .above .atMost expected ∧
      ¬(actual.Holds .below expected ∧ actual.Holds .above expected)
  notComparable : ∀ op : Operator, op.IsOrdering →
    ((∃ cause, actual.test op.symbol expected = .error (.notComparable cause)) ↔
      (∃ items, actual = list items) ∨ (∃ fields, actual = record fields) ∨ expected = null ∨
        NotANumber actual (expected.broughtTo actual))
  typeMismatch : ∀ op : Operator, op.IsOrdering →
    ((∃ cause, actual.test op.symbol expected = .error (.typeMismatch cause)) ↔
      actual.isOrdered = true ∧ expected ≠ null ∧ expected.scale? ≠ actual.scale? ∧
        expected.coerce actual = none)
  coerced : ∀ scale, actual.scale? = some scale → expected.scale? ≠ some scale →
    ((expected.coerce actual).isSome ↔ StandsFor scale expected)
  nothingElse : ∀ op : Operator, op.IsOrdering → ∀ e, actual.test op.symbol expected = .error e →
    (∃ cause, e = .notComparable cause) ∨ ∃ cause, e = .typeMismatch cause
  text : ∀ s, actual = string s → expected ≠ null →
    ∀ op : Operator, ∃ holds, actual.test op.symbol expected = .ok holds

theorem isOrdered_eq_false_iff (h : actual.isNull = false) :
    actual.isOrdered = false ↔
      (∃ items, actual = list items) ∨ ∃ fields, actual = record fields := by
  cases actual <;> simp_all [isOrdered, isNull]

/-- A text has an order with every value but null. -/
theorem compareTo_string (s : String) (h : expected ≠ null) :
    (string s).compareTo expected = .ok (compare s expected.toText) := by
  cases expected with
  | null => exact (h rfl).elim
  | _ => rfl

theorem order_coheres (h : actual.isNull = false) (expected : Value) :
    (∃ e, ∀ op : Operator, op.IsOrdering → actual.test op.symbol expected = .error e) ∨
      actual.Opposed .below .atLeast expected ∧ actual.Opposed .above .atMost expected ∧
        ¬(actual.Holds .below expected ∧ actual.Holds .above expected) := by
  cases hcompare : actual.compareTo expected with
  | error e => exact Or.inl ⟨e, fun op hop => (test_eq_error_iff h hop).mpr hcompare⟩
  | ok order =>
    have hbelow : Operator.below.IsOrdering := ⟨nofun, nofun⟩
    have habove : Operator.above.IsOrdering := ⟨nofun, nofun⟩
    refine Or.inr ⟨?_, ?_, ?_⟩
    · exact opposed_of_ok h hbelow ⟨nofun, nofun⟩ (Operator.accepts_atLeast order) hcompare
    · exact opposed_of_ok h habove ⟨nofun, nofun⟩ (Operator.accepts_atMost order) hcompare
    · rw [holds_of_ok h hbelow hcompare, holds_of_ok h habove hcompare]
      cases order <;> decide

theorem coheres (h : actual.isNull = false) (expected : Value) : actual.Coheres expected where
  equality := ⟨_, test_equal h expected, test_notEqual h expected⟩
  order := order_coheres h expected
  notComparable op hop := by
    simp only [test_eq_error_iff h hop]
    rw [compareTo_notComparable_iff, isOrdered_eq_false_iff h, or_assoc]
  typeMismatch op hop := by
    simp only [test_eq_error_iff h hop]
    exact compareTo_typeMismatch_iff
  coerced scale hscale hother := isSome_coerce_iff hscale hother
  nothingElse op hop e herror := compareTo_error_cases ((test_eq_error_iff h hop).mp herror)
  text s hs hnull := by
    subst hs
    exact exists_test h (compareTo_string s hnull)

/-- On these values `<=` is a total preorder, and `<` is the opposite of `>`. -/
structure Ranked {α : Type} (wrap : α → Value) : Prop where
  total : ∀ a b, (wrap a).Holds .atMost (wrap b) ∨ (wrap b).Holds .atMost (wrap a)
  trans : ∀ a b c, (wrap a).Holds .atMost (wrap b) → (wrap b).Holds .atMost (wrap c) →
    (wrap a).Holds .atMost (wrap c)
  below_iff_above : ∀ a b, (wrap a).Holds .below (wrap b) ↔ (wrap b).Holds .above (wrap a)

/-- Values that are ordered by a key are ranked. -/
theorem ranked_of_key {α κ : Type} [LinearOrder κ] {wrap : α → Value} (key : α → κ)
    (hnull : ∀ a, (wrap a).isNull = false)
    (hkey : ∀ a b, (wrap a).compareTo (wrap b) = .ok (compare (key a) (key b))) : Ranked wrap := by
  have hatMost (a b : α) := holds_atMost_iff (hnull a) (hkey a b)
  constructor
  · intro a b
    rw [hatMost, hatMost]
    exact le_total (key a) (key b)
  · intro a b c
    rw [hatMost, hatMost, hatMost]
    exact le_trans
  · intro a b
    rw [holds_below_iff (hnull a) (hkey a b), holds_above_iff (hnull b) (hkey b a)]

theorem ranked_string : Ranked string :=
  ranked_of_key id (fun _ => rfl) fun a _ => compareTo_string a nofun

theorem ranked_bool : Ranked bool :=
  ranked_of_key id (fun _ => rfl) fun _ _ => rfl

theorem ranked_dateTime : Ranked dateTime :=
  ranked_of_key DateTime.place (fun _ => rfl) fun a b =>
    congrArg Except.ok (DateTime.compare_eq a b)

theorem equivalence_equal :
    Equivalence fun a b : {v : Value // v.isNull = false} => a.val.Holds .equal b.val := by
  constructor
  · intro a
    exact (holds_equal_iff a.property).mpr rfl
  · intro a b h
    exact (holds_equal_iff b.property).mpr ((holds_equal_iff a.property).mp h).symm
  · intro a b c hab hbc
    have htext := ((holds_equal_iff a.property).mp hab).trans ((holds_equal_iff b.property).mp hbc)
    exact (holds_equal_iff a.property).mpr htext

/-- The operators fit together on all values but null. -/
theorem operators_cohere :
    (∀ actual expected : Value, actual.isNull = false → actual.Coheres expected) ∧
    (Equivalence fun a b : {v : Value // v.isNull = false} => a.val.Holds .equal b.val) ∧
    Ranked bool ∧ Ranked string ∧ Ranked dateTime :=
  ⟨fun _ expected h => coheres h expected, equivalence_equal, ranked_bool, ranked_string,
    ranked_dateTime⟩

/-- A whole number and a text that reads as NaN have no order. -/
theorem int_against_nan_notComparable :
    (int 5).isNull = false ∧
    ∃ cause, (int 5).test "<" (string " NaN ") = .error (.notComparable cause) := by
  refine ⟨rfl, ?_⟩
  have hnan : NotANumber (int 5) ((string " NaN ").broughtTo (int 5)) :=
    ⟨_, .nan, rfl, by decide, Or.inr rfl⟩
  have hcoheres := operators_cohere.1 (int 5) (string " NaN ") rfl
  exact (hcoheres.notComparable .below ⟨nofun, nofun⟩).mpr (Or.inr (Or.inr (Or.inr hnan)))

end Value
end StageGate
