import Mathlib.Data.Prod.Lex
import StageGate.DateTime

/-! Date-times as places in a lexicographic order. -/
namespace StageGate

namespace Date

def place (d : Date) : ℤ ×ₗ ℕ ×ₗ ℕ :=
  toLex (d.year, toLex (d.month, d.day))

theorem compare_eq (a b : Date) : a.compare b = Ord.compare a.place b.place := by
  simp [compare, place, Prod.Lex.compare_def, compareLex, compareOn]

end Date

namespace Clock

def place (t : Clock) : ℕ ×ₗ ℕ :=
  toLex (t.secondOfDay, t.nanosecond)

theorem compare_eq (a b : Clock) : a.compare b = Ord.compare a.place b.place := by
  simp [compare, place, Prod.Lex.compare_def, compareLex, compareOn]

end Clock

namespace DateTime

def place (t : DateTime) : (ℤ ×ₗ ℕ ×ₗ ℕ) ×ₗ ℕ ×ₗ ℕ :=
  toLex (t.date.place, t.clock.place)

theorem compare_eq (a b : DateTime) : a.compare b = Ord.compare a.place b.place := by
  simp [compare, place, Prod.Lex.compare_def, compareLex, compareOn, Date.compare_eq,
    Clock.compare_eq]

end DateTime
end StageGate
