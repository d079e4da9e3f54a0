import Mathlib.Data.Option.Basic
import StageGate.Proofs.Text.Number
import StageGate.Value.Comparison

/-! The scales on which values have an order, and all that can come of bringing two values into
one. -/
namespace StageGate

namespace Operator

/-- The operators that ask for an order. -/
def IsOrdering (op : Operator) : Prop :=
  op ≠ .equal ∧ op ≠ .notEqual

/-- What an operator asks of an order. -/
def accepts : Operator → Ordering → Bool
  | equal, o => o == .eq
  | notEqual, o => o != .eq
  | above, o => o == .gt
  | atLeast, o => o != .lt
  | below, o => o == .lt
  | atMost, o => o != .gt

end Operator

theorem Binary64.compare?_eq_none_iff {x y : Binary64} :
    x.compare? y = none ↔ x = .nan ∨ y = .nan := by
  cases x <;> cases y <;> simp [compare?, position?]

/-- The kinds that have an order. Whole and other numbers are one. -/
inductive Scale
  | truth
  | number
  | text
  | moment
deriving DecidableEq

namespace Value

def scale? : Value → Option Scale
  | bool _ => some .truth
  | int _ | float _ => some .number
  | string _ => some .text
  | dateTime _ => some .moment
  | null | list _ | record _ => none

/-- What can stand for a value of a scale without being one. -/
def StandsFor : Scale → Value → Prop
  | .text, _ => True
  | .number, string s => (Binary64.read (Text.trimChars s.toList)).isSome
  | .number, bool _ => True
  | .truth, string s => Text.lower (Text.trim s) = "true" ∨ Text.lower (Text.trim s) = "false"
  | .truth, int _ => True
  | .moment, string s => (DateTime.read? s).isSome
  | _, _ => False

/-- The expected value after coercion: in the kind of the actual one, or as it is. -/
def broughtTo (expected like : Value) : Value :=
  (expected.coerce like).getD expected

variable {actual expected like : Value} {scale : Scale} {op : Operator}

theorem isNull_iff : actual.isNull = true ↔ actual = null := by
  cases actual <;> simp [isNull]

/-- Equality has a result for all values. -/
theorem satisfies_equality (actual expected : Value) (hop : ¬op.IsOrdering) :
    ∃ holds, actual.satisfies op expected = .ok holds := by
  unfold satisfies
  by_cases hnull : actual.isNull = true
  · exact ⟨false, if_pos hnull⟩
  · rw [if_neg hnull]
    cases op with
    | equal => exact ⟨_, rfl⟩
    | notEqual => exact ⟨_, rfl⟩
    | above | atLeast | below | atMost => exact (hop ⟨nofun, nofun⟩).elim

/-- An ordering operator looks at nothing but the order. -/
theorem satisfies_ordering (h : actual.isNull = false) (hop : op.IsOrdering) :
    actual.satisfies op expected = (actual.compareTo expected).map op.accepts := by
  have hnot : ¬actual.isNull = true := by rw [h]; exact Bool.false_ne_true
  unfold satisfies
  rw [if_neg hnot]
  cases op with
  | equal => exact (hop.1 rfl).elim
  | notEqual => exact (hop.2 rfl).elim
  | above | atLeast | below | atMost => cases actual.compareTo expected <;> rfl

theorem satisfies_eq_error_iff {e : Error} (h : actual.isNull = false) (hop : op.IsOrdering) :
    actual.satisfies op expected = .error e ↔ actual.compareTo expected = .error e := by
  rw [satisfies_ordering h hop]
  cases actual.compareTo expected <;> simp [Except.map]

theorem isOrdered_iff : actual.isOrdered = true ↔ ∃ scale, actual.scale? = some scale := by
  cases actual <;> simp [isOrdered, scale?]

theorem scale?_broughtTo_iff (h : like.scale? = some scale) :
    (expected.broughtTo like).scale? = some scale ↔
      expected.scale? = some scale ∨ StandsFor scale expected := by
  cases like with
  | null | list _ | record _ => cases h
  | string s =>
    cases h
    exact iff_of_true rfl (Or.inr trivial)
  | bool b =>
    cases h
    cases expected with
    | string s =>
      simp only [broughtTo, coerce, StandsFor]
      split_ifs with htrue hfalse
      · simp [scale?, htrue]
      · simp [scale?, hfalse]
      · simp [scale?, htrue, hfalse]
    | _ => simp [broughtTo, coerce, scale?, StandsFor]
  | int n =>
    cases h
    cases expected with
    | string s =>
      simp only [broughtTo, coerce, StandsFor]
      cases hint : Text.int64? (Text.trimChars s.toList) with
      | some n => simp [scale?, Binary64.isSome_read_of_int64 hint]
      | none => cases Binary64.read (Text.trimChars s.toList) <;> simp [scale?]
    | _ => simp [broughtTo, coerce, scale?, StandsFor]
  | float x =>
    cases h
    cases expected with
    | string s =>
      simp only [broughtTo, coerce, StandsFor]
      cases Binary64.read (Text.trimChars s.toList) <;> simp [scale?]
    | _ => simp [broughtTo, coerce, scale?, StandsFor]
  | dateTime t =>
    cases h
    cases expected with
    | string s =>
      simp only [broughtTo, coerce, StandsFor]
      cases DateTime.read? s <;> simp [scale?]
    | _ => simp [broughtTo, coerce, scale?, StandsFor]

theorem scale?_coerce {v : Value} (h : expected.coerce like = some v) : v.scale? = like.scale? := by
  unfold coerce at h
  split at h
  · cases h
    rfl
  · rcases (Option.orElse_eq_some _ _ _).mp h with h | ⟨-, h⟩
    · obtain ⟨n, -, rfl⟩ := Option.map_eq_some_iff.mp h
      rfl
    · obtain ⟨x, -, rfl⟩ := Option.map_eq_some_iff.mp h
      rfl
  · cases h
    rfl
  · obtain ⟨x, -, rfl⟩ := Option.map_eq_some_iff.mp h
    rfl
  · cases h
    rfl
  · cases h
    rfl
  · simp only at h
    split_ifs at h <;> cases h <;> rfl
  · cases h
    rfl
  · cases h
    rfl
  · obtain ⟨t, -, rfl⟩ := Option.map_eq_some_iff.mp h
    rfl
  · cases h

/-- What does not come to the scale is compared as it is. -/
theorem broughtTo_apart (hscale : like.scale? = some scale)
    (h : ¬(expected.scale? = some scale ∨ StandsFor scale expected)) :
    expected.broughtTo like = expected := by
  cases hcoerce : expected.coerce like with
  | none => rw [broughtTo, hcoerce, Option.getD_none]
  | some v =>
    refine (h ((scale?_broughtTo_iff hscale).mp ?_)).elim
    rw [broughtTo, hcoerce, Option.getD_some, scale?_coerce hcoerce, hscale]

/-- A value of another scale is coerced if and only if it stands for one of this scale. -/
theorem isSome_coerce_iff (hscale : like.scale? = some scale) (h : expected.scale? ≠ some scale) :
    (expected.coerce like).isSome ↔ StandsFor scale expected := by
  constructor
  · intro hsome
    obtain ⟨v, hv⟩ := Option.isSome_iff_exists.mp hsome
    refine ((scale?_broughtTo_iff hscale).mp ?_).resolve_left h
    rw [broughtTo, hv, Option.getD_some, scale?_coerce hv, hscale]
  · intro hstands
    have hbrought := (scale?_broughtTo_iff hscale).mpr (Or.inr hstands)
    rw [broughtTo] at hbrought
    cases hcoerce : expected.coerce like with
    | some v => rfl
    | none =>
      rw [hcoerce, Option.getD_none] at hbrought
      exact (h hbrought).elim

theorem apart_iff (hscale : like.scale? = some scale) :
    ¬(expected.scale? = some scale ∨ StandsFor scale expected) ↔
      expected.scale? ≠ like.scale? ∧ expected.coerce like = none := by
  rw [hscale, not_or]
  refine and_congr_right fun h => ?_
  rw [← isSome_coerce_iff hscale h, Option.not_isSome_iff_eq_none]

/-- Two numbers one of which is none. -/
def NotANumber (actual expected : Value) : Prop :=
  ∃ x y, actual.number? = some x ∧ expected.number? = some y ∧ (x = .nan ∨ y = .nan)

/-- All that can come of bringing two values into an order. -/
inductive Compared (actual expected : Value) : Except Error Ordering → Prop
  | unordered (h : actual.isOrdered = false) :
    Compared actual expected (.error (.notComparable (.unorderedKind actual.kind)))
  | againstNull (hordered : actual.isOrdered = true) (h : expected = null) :
    Compared actual expected (.error (.notComparable .againstNull))
  | apart {scale : Scale} (hscale : actual.scale? = some scale) (hnull : expected ≠ null)
    (h : ¬(expected.scale? = some scale ∨ StandsFor scale expected)) :
    Compared actual expected (.error (.typeMismatch (.order actual.kind expected.kind)))
  | notANumber {x y : Binary64} (hnull : expected ≠ null) (hx : actual.number? = some x)
    (hy : (expected.broughtTo actual).number? = some y) (h : x = .nan ∨ y = .nan) :
    Compared actual expected (.error (.notComparable (.notANumber x y)))
  | ordered {scale : Scale} (order : Ordering) (hscale : actual.scale? = some scale)
    (hnull : expected ≠ null) (h : expected.scale? = some scale ∨ StandsFor scale expected)
    (hnan : ¬NotANumber actual (expected.broughtTo actual)) :
    Compared actual expected (.ok order)

theorem compareTo_eq (hscale : actual.scale? = some scale) (hnull : expected ≠ null) :
    actual.compareTo expected = actual.compareAlike (expected.broughtTo actual) := by
  cases actual with
  | null | list _ | record _ => cases hscale
  | int _ | float _ =>
    cases expected <;>
      simp_all [compareTo, compareAlike, broughtTo, coerce, number?, isOrdered, isNull]
  | bool _ | string _ | dateTime _ =>
    cases expected <;> simp_all [compareTo, broughtTo, number?, isOrdered, isNull]

theorem compareAlike_apart (hscale : actual.scale? = some scale)
    (h : expected.scale? ≠ some scale) :
    actual.compareAlike expected = .error (.typeMismatch (.order actual.kind expected.kind)) := by
  cases actual <;> cases hscale <;> cases expected <;>
    first | exact (h rfl).elim | rfl

theorem scale?_eq_number_iff {v : Value} : v.scale? = some .number ↔ ∃ x, v.number? = some x := by
  cases v <;> simp [scale?, number?]

theorem compareAlike_numbers {x y : Binary64} (hx : actual.number? = some x)
    (hy : expected.number? = some y) : actual.compareAlike expected = compareNumbers x y := by
  unfold compareAlike
  rw [hx, hy]

/-- Values of one scale other than numbers always have an order. -/
theorem exists_compareAlike (hscale : actual.scale? = some scale) (h : expected.scale? = some scale)
    (hnumber : scale ≠ .number) : ∃ order, actual.compareAlike expected = .ok order := by
  cases actual <;> cases hscale <;> cases expected <;> cases h <;>
    first | exact (hnumber rfl).elim | exact ⟨_, rfl⟩

theorem compareTo_unordered (h : actual.isOrdered = false) (expected : Value) :
    actual.compareTo expected = .error (.notComparable (.unorderedKind actual.kind)) := by
  cases actual <;> cases h <;> rfl

theorem compareTo_null_of_ordered (h : actual.isOrdered = true) :
    actual.compareTo null = .error (.notComparable .againstNull) := by
  cases actual <;> cases h <;> rfl

theorem compared_numbers {x y : Binary64} (hscale : actual.scale? = some .number)
    (hnull : expected ≠ null) (halike : expected.scale? = some .number ∨ StandsFor .number expected)
    (hx : actual.number? = some x) (hy : (expected.broughtTo actual).number? = some y) :
    Compared actual expected (compareNumbers x y) := by
  unfold compareNumbers
  cases hcompare : x.compare? y with
  | none => exact .notANumber hnull hx hy (Binary64.compare?_eq_none_iff.mp hcompare)
  | some order =>
    refine .ordered order hscale hnull halike ?_
    rintro ⟨x', y', hx', hy', hnan⟩
    cases hx.symm.trans hx'
    cases hy.symm.trans hy'
    cases hcompare.symm.trans (Binary64.compare?_eq_none_iff.mpr hnan)

theorem compared_brought (hscale : actual.scale? = some scale) (hnull : expected ≠ null)
    (halike : expected.scale? = some scale ∨ StandsFor scale expected) :
    Compared actual expected (actual.compareAlike (expected.broughtTo actual)) := by
  have hbrought := (scale?_broughtTo_iff hscale).mpr halike
  by_cases hnumber : scale = .number
  · subst hnumber
    obtain ⟨x, hx⟩ := scale?_eq_number_iff.mp hscale
    obtain ⟨y, hy⟩ := scale?_eq_number_iff.mp hbrought
    rw [compareAlike_numbers hx hy]
    exact compared_numbers hscale hnull halike hx hy
  · obtain ⟨order, horder⟩ := exists_compareAlike hscale hbrought hnumber
    rw [horder]
    refine .ordered order hscale hnull halike ?_
    rintro ⟨x, y, hx, -⟩
    cases hscale.symm.trans (scale?_eq_number_iff.mpr ⟨x, hx⟩)
    exact hnumber rfl

/-- The outcome, with the reason for it. -/
theorem compared (actual expected : Value) :
    Compared actual expected (actual.compareTo expected) := by
  cases hordered : actual.isOrdered with
  | false =>
    rw [compareTo_unordered hordered]
    exact .unordered hordered
  | true =>
    obtain ⟨scale, hscale⟩ := isOrdered_iff.mp hordered
    by_cases hnull : expected = null
    · rw [hnull, compareTo_null_of_ordered hordered]
      exact .againstNull hordered rfl
    · rw [compareTo_eq hscale hnull]
      by_cases halike : expected.scale? = some scale ∨ StandsFor scale expected
      · exact compared_brought hscale hnull halike
      · rw [broughtTo_apart hscale halike, compareAlike_apart hscale fun h => halike (Or.inl h)]
        exact .apart hscale hnull halike

theorem compareTo_notComparable_iff :
    (∃ cause, actual.compareTo expected = .error (.notComparable cause)) ↔
      actual.isOrdered = false ∨ expected = null ∨
        NotANumber actual (expected.broughtTo actual) := by
  have hcompared := compared actual expected
  generalize actual.compareTo expected = outcome at hcompared
  cases hcompared with
  | unordered h => exact iff_of_true ⟨_, rfl⟩ (Or.inl h)
  | againstNull _ h => exact iff_of_true ⟨_, rfl⟩ (Or.inr (Or.inl h))
  | notANumber hnull hx hy h => exact iff_of_true ⟨_, rfl⟩ (Or.inr (Or.inr ⟨_, _, hx, hy, h⟩))
  | apart hscale hnull h =>
    refine iff_of_false nofun ?_
    rintro (hordered | hexpected | ⟨x, y, hx, hy, -⟩)
    · rw [isOrdered_iff.mpr ⟨_, hscale⟩] at hordered
      cases hordered
    · exact hnull hexpected
    · rw [broughtTo_apart hscale h] at hy
      cases hscale.symm.trans (scale?_eq_number_iff.mpr ⟨x, hx⟩)
      exact h (Or.inl (scale?_eq_number_iff.mpr ⟨y, hy⟩))
  | ordered order hscale hnull h hnan =>
    refine iff_of_false nofun ?_
    rintro (hordered | hexpected | hnumbers)
    · rw [isOrdered_iff.mpr ⟨_, hscale⟩] at hordered
      cases hordered
    · exact hnull hexpected
    · exact hnan hnumbers

theorem compareTo_typeMismatch_iff :
    (∃ cause, actual.compareTo expected = .error (.typeMismatch cause)) ↔
      actual.isOrdered = true ∧ expected ≠ null ∧ expected.scale? ≠ actual.scale? ∧
        expected.coerce actual = none := by
  have hcompared := compared actual expected
  generalize actual.compareTo expected = outcome at hcompared
  cases hcompared with
  | apart hscale hnull h =>
    exact iff_of_true ⟨_, rfl⟩ ⟨isOrdered_iff.mpr ⟨_, hscale⟩, hnull, (apart_iff hscale).mp h⟩
  | unordered h =>
    refine iff_of_false nofun ?_
    rintro ⟨hordered, -⟩
    cases h.symm.trans hordered
  | againstNull _ h => exact iff_of_false nofun fun hapart => hapart.2.1 h
  | notANumber hnull hx hy h =>
    refine iff_of_false nofun ?_
    rintro ⟨-, -, hapart⟩
    have hscale := scale?_eq_number_iff.mpr ⟨_, hx⟩
    have hself := broughtTo_apart hscale ((apart_iff hscale).mpr hapart)
    rw [hself] at hy
    exact hapart.1 ((scale?_eq_number_iff.mpr ⟨_, hy⟩).trans hscale.symm)
  | ordered order hscale hnull h hnan =>
    refine iff_of_false nofun ?_
    rintro ⟨-, -, hapart⟩
    exact (apart_iff hscale).mpr hapart h

theorem compareTo_error_cases {e : Error} (h : actual.compareTo expected = .error e) :
    (∃ cause, e = .notComparable cause) ∨ ∃ cause, e = .typeMismatch cause := by
  have hcompared := compared actual expected
  rw [h] at hcompared
  cases hcompared with
  | unordered | againstNull | notANumber => exact Or.inl ⟨_, rfl⟩
  | apart => exact Or.inr ⟨_, rfl⟩

end Value
end StageGate
