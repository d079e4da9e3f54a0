import Mathlib.Data.List.TakeWhile
import StageGate.Text.Blank

/-! Texts that trimming leaves as they are, and what it takes from others. -/
namespace StageGate.Text

variable {cs front rest before after : List Char}

theorem trimLeft_eq_self_iff :
    trimLeft cs = cs ↔ ∀ c, cs.head? = some c → isBlankChar c = false := by
  cases cs with
  | nil => simp [trimLeft]
  | cons c cs =>
    constructor
    · intro h c' hc'
      have hhead := not_isBlankChar_of_trimLeft h
      simpa [← Option.some.inj hc'] using hhead
    · intro h
      simp [trimLeft, h c rfl]

theorem trimChars_sublist (cs : List Char) : (trimChars cs).Sublist cs := by
  have hleft : (trimLeft cs).Sublist cs := (List.dropWhile_suffix isBlankChar).sublist
  have hright : (trimLeft (trimLeft cs).reverse).Sublist (trimLeft cs).reverse :=
    (List.dropWhile_suffix isBlankChar).sublist
  have hback := hright.reverse
  rw [List.reverse_reverse] at hback
  exact hback.trans hleft

/-- A text is trimmed if and only if it neither starts nor ends with a blank. -/
theorem trimChars_eq_self_iff :
    trimChars cs = cs ↔
      (∀ c, cs.head? = some c → isBlankChar c = false) ∧
        ∀ c, cs.getLast? = some c → isBlankChar c = false := by
  have hright : trimRight cs = cs ↔ ∀ c, cs.getLast? = some c → isBlankChar c = false := by
    have hreverse : trimRight cs = cs ↔ trimLeft cs.reverse = cs.reverse := by
      rw [trimRight, List.reverse_eq_iff]
    rw [hreverse, trimLeft_eq_self_iff, List.head?_reverse]
  rw [← trimLeft_eq_self_iff, ← hright]
  constructor
  · intro h
    have hsuffix : trimLeft cs <:+ cs := List.dropWhile_suffix _
    have hshorter : (trimChars cs).length ≤ (trimLeft cs).length := by
      have hdrop := (List.dropWhile_suffix isBlankChar (l := (trimLeft cs).reverse)).length_le
      simpa [trimChars, trimRight, trimLeft] using hdrop
    have hleft : trimLeft cs = cs := hsuffix.eq_of_length_le (by rwa [h] at hshorter)
    refine ⟨hleft, ?_⟩
    rwa [trimChars, hleft] at h
  · rintro ⟨hleft, hright⟩
    rw [trimChars, hleft, hright]

theorem trimChars_of_no_blank (h : ∀ c ∈ cs, isBlankChar c = false) : trimChars cs = cs :=
  trimChars_eq_self_iff.mpr
    ⟨fun c hc => h c (List.mem_of_head? hc), fun c hc => h c (List.mem_of_getLast? hc)⟩

theorem trimChars_join {sep : Char} (hfront : trimChars front = front) (hne : front ≠ [])
    (hsep : isBlankChar sep = false) (hrest : trimChars rest = rest) :
    trimChars (front ++ sep :: rest) = front ++ sep :: rest := by
  obtain ⟨hhead, -⟩ := trimChars_eq_self_iff.mp hfront
  obtain ⟨-, hlast⟩ := trimChars_eq_self_iff.mp hrest
  apply trimChars_eq_self_iff.mpr
  constructor
  · intro c hc
    obtain ⟨first, front, rfl⟩ := List.exists_cons_of_ne_nil hne
    exact hhead c hc
  · intro c hc
    cases rest with
    | nil =>
      have hsame : sep = c := by simpa using hc
      rwa [← hsame]
    | cons first rest =>
      apply hlast c
      simpa [List.getLast?_append] using hc

theorem trimChars_append (hfront : trimChars front = front) (hrest : trimChars rest = rest) :
    trimChars (front ++ rest) = front ++ rest := by
  obtain ⟨hhead, hlast⟩ := trimChars_eq_self_iff.mp hfront
  obtain ⟨hhead', hlast'⟩ := trimChars_eq_self_iff.mp hrest
  apply trimChars_eq_self_iff.mpr
  constructor
  · intro c hc
    rw [List.head?_append, Option.or_eq_some_iff] at hc
    obtain hc | ⟨-, hc⟩ := hc
    · exact hhead c hc
    · exact hhead' c hc
  · intro c hc
    rw [List.getLast?_append, Option.or_eq_some_iff] at hc
    obtain hc | ⟨-, hc⟩ := hc
    · exact hlast' c hc
    · exact hlast c hc

theorem trimLeft_of_blank (h : ∀ c ∈ before, isBlankChar c = true) (cs : List Char) :
    trimLeft (before ++ cs) = trimLeft cs :=
  List.dropWhile_append_of_pos h

theorem trimRight_of_blank (h : ∀ c ∈ after, isBlankChar c = true) (cs : List Char) :
    trimRight (cs ++ after) = trimRight cs := by
  rw [trimRight, List.reverse_append, trimLeft_of_blank (by simpa using h), trimRight]

/-- Blanks around a text are what trimming takes. -/
theorem trimChars_surrounded (hbefore : ∀ c ∈ before, isBlankChar c = true)
    (hafter : ∀ c ∈ after, isBlankChar c = true) (cs : List Char) :
    trimChars (before ++ cs ++ after) = trimChars cs := by
  rw [trimChars, List.append_assoc, trimLeft_of_blank hbefore, trimLeft, List.dropWhile_append]
  split
  · next hblank =>
    have hall := trimLeft_of_blank hafter []
    have hnone : trimLeft cs = [] := List.isEmpty_iff.mp hblank
    rw [List.append_nil, trimLeft] at hall
    rw [hall, trimChars, hnone]
    rfl
  · exact trimRight_of_blank hafter _

/-- Trimming leaves nothing of a blank text, and something of any other. -/
theorem trim_eq_empty_iff {s : String} : trim s = "" ↔ isBlank s = true := by
  rw [trim, ← String.toList_inj, String.toList_ofList, isBlank, List.all_eq_true]
  constructor
  · intro h
    cases hleft : trimLeft s.toList with
    | nil => exact List.dropWhile_eq_nil_iff.mp hleft
    | cons c rest =>
      rw [trimChars, hleft, trimRight_cons (not_isBlankChar_of_trimLeft hleft)] at h
      cases h
  · intro h
    have hafter : ∀ c ∈ ([] : List Char), isBlankChar c = true := by simp
    have hnothing := trimChars_surrounded h hafter []
    rwa [List.append_nil, List.append_nil] at hnothing

end StageGate.Text
