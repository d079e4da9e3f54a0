import StageGate.Json.Printer

/-! Texts of documents say where they end, so texts of documents that differ do so wherever they
stand. -/
namespace StageGate

variable {P Q : Prop} {x x' y y' : String}

/-- The two texts are the same if and only if `P` holds; otherwise neither of them begins the other,
so they differ whatever follows them. -/
def AgreeIff (P : Prop) (x y : String) : Prop :=
  ∀ rest rest' : List Char, x.toList ++ rest = y.toList ++ rest' ↔ P ∧ rest = rest'

theorem AgreeIff.eq_iff (h : AgreeIff P x y) : x = y ↔ P := by
  have hwhole := h [] []
  simpa [String.toList_inj] using hwhole

theorem agreeIff_self (x : String) : AgreeIff True x x := by
  intro rest rest'
  simp

theorem AgreeIff.append (h : AgreeIff P x y) (h' : AgreeIff Q x' y') :
    AgreeIff (P ∧ Q) (x ++ x') (y ++ y') := by
  intro rest rest'
  rw [String.toList_append, String.toList_append, List.append_assoc, List.append_assoc, h, h',
    and_assoc]

theorem AgreeIff.congr (h : AgreeIff P x y) (hiff : P ↔ Q) : AgreeIff Q x y :=
  propext hiff ▸ h

namespace Json

/-- The letters behind the backslash in the escapes of two characters. -/
def shortEscapes : List (Char × Char) :=
  [('"', '"'), ('\\', '\\'), ('\x08', 'b'), ('\t', 't'), ('\n', 'n'), ('\x0c', 'f'), ('\r', 'r')]

theorem escapeChar_cases (c : Char) :
    (escapeChar c = [c] ∧ c ≠ '\\' ∧ c ≠ '"') ∨
    (∃ letter, (c, letter) ∈ shortEscapes ∧ escapeChar c = ['\\', letter]) ∨
    (c.toNat < 32 ∧ escapeChar c =
      ['\\', 'u', '0', '0', Nat.digitChar (c.toNat / 16), Nat.digitChar (c.toNat % 16)]) := by
  have hshort {d letter : Char} (hcode : c.toNat = d.toNat) (hmem : (d, letter) ∈ shortEscapes) :
      ∃ other, (c, other) ∈ shortEscapes ∧ ['\\', letter] = ['\\', other] :=
    ⟨letter, Char.toNat_inj.mp hcode ▸ hmem, rfl⟩
  simp only [escapeChar]
  split
  · next h => exact Or.inr (Or.inl (hshort (congrArg Char.toNat h) (by decide)))
  · next hquote =>
    split
    · next h => exact Or.inr (Or.inl (hshort (congrArg Char.toNat h) (by decide)))
    · next hslash =>
      split
      · exact Or.inl ⟨rfl, hslash, hquote⟩
      · next hcontrol =>
        refine Or.inr ?_
        split
        · next h => exact Or.inl (hshort (d := '\x08') h (by decide))
        · split
          · next h => exact Or.inl (hshort (d := '\t') h (by decide))
          · split
            · next h => exact Or.inl (hshort (d := '\n') h (by decide))
            · split
              · next h => exact Or.inl (hshort (d := '\x0c') h (by decide))
              · split
                · next h => exact Or.inl (hshort (d := '\r') h (by decide))
                · exact Or.inr ⟨by omega, rfl⟩

theorem shortEscapes_inj :
    ∀ p ∈ shortEscapes, ∀ q ∈ shortEscapes, p.2 = q.2 → p.1 = q.1 := by
  decide

theorem longEscapes_inj :
    ∀ m < 32, ∀ n < 32, Nat.digitChar (m / 16) = Nat.digitChar (n / 16) →
      Nat.digitChar (m % 16) = Nat.digitChar (n % 16) → m = n := by
  decide

theorem u_notMem_shortEscapes : ∀ p ∈ shortEscapes, p.2 ≠ 'u' := by
  decide

theorem escapeChar_append_inj {c d : Char} {cs ds : List Char}
    (h : escapeChar c ++ cs = escapeChar d ++ ds) : c = d ∧ cs = ds := by
  obtain ⟨hc, hslash, -⟩ | ⟨letter, hmem, hc⟩ | ⟨hcode, hc⟩ := escapeChar_cases c <;>
    obtain ⟨hd, hslash', -⟩ | ⟨letter', hmem', hd⟩ | ⟨hcode', hd⟩ := escapeChar_cases d <;>
      simp only [hc, hd, List.cons_append, List.nil_append, List.cons.injEq] at h
  · exact h
  · exact (hslash h.1).elim
  · exact (hslash h.1).elim
  · exact (hslash' h.1.symm).elim
  · exact ⟨shortEscapes_inj _ hmem _ hmem' h.2.1, h.2.2⟩
  · exact (u_notMem_shortEscapes _ hmem h.2.1).elim
  · exact (hslash' h.1.symm).elim
  · exact (u_notMem_shortEscapes _ hmem' h.2.1.symm).elim
  · obtain ⟨-, -, -, -, hhigh, hlow, hrest⟩ := h
    exact ⟨Char.toNat_inj.mp (longEscapes_inj _ hcode _ hcode' hhigh hlow), hrest⟩

theorem escapeChar_append_ne_quote {c : Char} {cs rest : List Char} :
    escapeChar c ++ cs ≠ '"' :: rest := by
  intro h
  obtain ⟨hc, -, hquote⟩ | ⟨letter, -, hc⟩ | ⟨-, hc⟩ := escapeChar_cases c <;>
    simp only [hc, List.cons_append, List.nil_append, List.cons.injEq] at h
  · exact hquote h.1
  · cases h.1
  · cases h.1

theorem escaped_append_inj {cs ds rest rest' : List Char}
    (h : cs.flatMap escapeChar ++ '"' :: rest = ds.flatMap escapeChar ++ '"' :: rest') :
    cs = ds ∧ rest = rest' := by
  induction cs generalizing ds with
  | nil =>
    cases ds with
    | nil => exact ⟨rfl, (List.cons.inj h).2⟩
    | cons d ds =>
      rw [List.flatMap_cons, List.append_assoc] at h
      exact (escapeChar_append_ne_quote h.symm).elim
  | cons c cs ih =>
    cases ds with
    | nil =>
      rw [List.flatMap_cons, List.append_assoc] at h
      exact (escapeChar_append_ne_quote h).elim
    | cons d ds =>
      rw [List.flatMap_cons, List.flatMap_cons, List.append_assoc, List.append_assoc] at h
      obtain ⟨rfl, hmore⟩ := escapeChar_append_inj h
      obtain ⟨rfl, hrest⟩ := ih hmore
      exact ⟨rfl, hrest⟩

theorem agreeIff_quoted (s t : String) : AgreeIff (s = t) (quoted s) (quoted t) := by
  intro rest rest'
  simp only [quoted, String.toList_ofList, List.cons_append, List.append_assoc, List.nil_append,
    List.cons.injEq, true_and]
  constructor
  · intro h
    obtain ⟨hchars, hrest⟩ := escaped_append_inj h
    exact ⟨String.toList_inj.mp hchars, hrest⟩
  · rintro ⟨rfl, rfl⟩
    rfl

mutual

/-- The texts in a document, at any depth; names of fields are none of them. -/
def texts : Json → List String
  | string s => [s]
  | array items => itemTexts items
  | object fields => fieldTexts fields
  | _ => []

def itemTexts : List Json → List String
  | [] => []
  | item :: items => texts item ++ itemTexts items

def fieldTexts : List (String × Json) → List String
  | [] => []
  | (_, value) :: fields => texts value ++ fieldTexts fields

end

end Json
end StageGate
