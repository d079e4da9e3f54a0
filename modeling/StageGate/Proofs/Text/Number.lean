import Mathlib.Data.List.TakeWhile
import Mathlib.Tactic.SplitIfs
import StageGate.Binary64.Reader
import StageGate.Proofs.DateTime.Text

/-! Whole numbers in plain text: their decimal text is read back, and what reads as one reads as a
binary64 number too. -/
namespace StageGate
namespace Text

variable {cs : List Char} {n : ℕ}

theorem natural?_eq_some_iff :
    natural? cs = some n ↔ (cs ≠ [] ∧ ∀ c ∈ cs, c.isDigit = true) ∧ digitsValue cs = n := by
  simp [natural?, and_assoc]

theorem natural?_toDigits (n : ℕ) : natural? (Nat.toDigits 10 n) = some n := by
  rw [natural?_eq_some_iff]
  refine ⟨⟨?_, ?_⟩, ?_⟩
  · exact List.ne_nil_of_length_pos Nat.length_toDigits_pos
  · intro c hc
    exact Nat.isDigit_of_mem_toDigits (by decide) (by decide) hc
  · simpa [padded] using digitsValue_padded 0 n

theorem toList_toString (i : ℤ) :
    (toString i).toList = if i < 0 then '-' :: Nat.toDigits 10 i.natAbs
      else Nat.toDigits 10 i.natAbs := by
  cases i with
  | ofNat n =>
    change (toString n).toList = Nat.toDigits 10 n
    rw [Nat.toString_eq_ofList_toDigits, String.toList_ofList]
  | negSucc n =>
    rw [if_pos (Int.negSucc_lt_zero n)]
    change ("-" ++ toString (n + 1)).toList = '-' :: Nat.toDigits 10 (n + 1)
    rw [Nat.toString_eq_ofList_toDigits, String.toList_append, String.toList_ofList]
    simp

theorem splitSign_toDigits (n : ℕ) :
    splitSign (Nat.toDigits 10 n) = (false, Nat.toDigits 10 n) := by
  obtain ⟨c, cs, hcs⟩ := List.exists_cons_of_length_pos (Nat.length_toDigits_pos (b := 10) (n := n))
  have hc : c.isDigit = true :=
    Nat.isDigit_of_mem_toDigits (by decide) (by decide) (hcs ▸ List.mem_cons_self)
  rw [hcs]
  unfold splitSign
  split
  · next h =>
    cases h
    cases hc
  · next h =>
    cases h
    cases hc
  · rfl

theorem int64?_of_natural {negative : Bool} {digits : List Char} {i : ℤ}
    (hsign : splitSign cs = (negative, digits)) (hn : natural? digits = some n)
    (hi : (if negative then -(n : ℤ) else n) = i)
    (hrange : -0x8000000000000000 ≤ i ∧ i < 0x8000000000000000) :
    int64? cs = some (Int64.ofInt i) := by
  unfold int64?
  rw [hsign]
  simp only [hn, Option.bind_eq_bind, Option.bind_some, hi]
  exact if_pos hrange

/-- A 64-bit number is read from its text. -/
theorem int64?_toString (n : Int64) : int64? (toString n.toInt).toList = some n := by
  have hrange : -0x8000000000000000 ≤ n.toInt ∧ n.toInt < 0x8000000000000000 := by
    have hleast := n.le_toInt
    have hmost := n.toInt_lt
    omega
  have hread : int64? (toString n.toInt).toList = some (Int64.ofInt n.toInt) := by
    rw [toList_toString]
    by_cases hneg : n.toInt < 0
    · rw [if_pos hneg]
      have hself : -(n.toInt.natAbs : ℤ) = n.toInt := by omega
      exact int64?_of_natural rfl (natural?_toDigits _) hself hrange
    · rw [if_neg hneg]
      have hself : (n.toInt.natAbs : ℤ) = n.toInt := by omega
      exact int64?_of_natural (splitSign_toDigits _) (natural?_toDigits _) hself hrange
  rw [hread, Int64.ofInt_toInt]

theorem not_isBlankChar_of_mem_toString {i : ℤ} {c : Char} (h : c ∈ (toString i).toList) :
    isBlankChar c = false := by
  have hdigit (hc : c ∈ Nat.toDigits 10 i.natAbs) : isBlankChar c = false :=
    not_isBlankChar_of_isDigit (Nat.isDigit_of_mem_toDigits (by decide) (by decide) hc)
  rw [toList_toString] at h
  split at h
  · rcases List.mem_cons.mp h with rfl | h
    · rfl
    · exact hdigit h
  · exact hdigit h

theorem trimChars_toString (i : ℤ) : trimChars (toString i).toList = (toString i).toList := by
  apply trimChars_eq_self_iff.mpr
  constructor
  · intro c hc
    exact not_isBlankChar_of_mem_toString (List.mem_of_head? hc)
  · intro c hc
    exact not_isBlankChar_of_mem_toString (List.mem_of_getLast? hc)

end Text

namespace Binary64

open Text

theorem isSome_readUnsigned {cs : List Char} (negative : Bool) (hne : cs ≠ [])
    (hdigits : ∀ c ∈ cs, c.isDigit = true) : (readUnsigned negative cs).isSome := by
  have htake : cs.takeWhile Char.isDigit = cs := List.takeWhile_eq_self_iff.mpr hdigits
  have hdrop : cs.dropWhile Char.isDigit = [] := List.dropWhile_eq_nil_iff.mpr hdigits
  simp only [readUnsigned, htake, hdrop]
  split_ifs with hinf hnan hempty
  · rfl
  · rfl
  · simp [hne] at hempty
  · simp [readExponent]

theorem isSome_read_of_int64 {cs : List Char} {n : Int64} (h : int64? cs = some n) :
    (read cs).isSome := by
  obtain ⟨m, hm, -⟩ := Option.bind_eq_some_iff.mp h
  obtain ⟨⟨hne, hdigits⟩, -⟩ := natural?_eq_some_iff.mp hm
  exact isSome_readUnsigned (splitSign cs).1 hne hdigits

end Binary64
end StageGate
