import StageGate.Proofs.Run.Invariant

/-! What runs of rules add to the journal: no success in the name of the engine. -/
namespace StageGate

/-- Whether the engine reports a success. -/
def Line.isSuccess (line : Line) : Bool :=
  line.speaker == .engine && line.level == .success

/-- No success of the engine has been added to the journal. -/
def Journal.Plain (before after : Journal) : Prop :=
  ∃ lines, after = before ++ lines ∧ lines.filter Line.isSuccess = []

section Runs

variable {before after : Journal}

theorem Journal.plain_refl (before : Journal) : Plain before before := ⟨[], by simp, rfl⟩

theorem Journal.Plain.add {line : Line} (h : Plain before after) (hline : line.isSuccess = false) :
    Plain before (after ++ [line]) := by
  obtain ⟨lines, rfl, hlines⟩ := h
  exact ⟨lines ++ [line], by simp, by simp [hlines, hline]⟩

/-- Rules may report what they like, but not in the name of the engine. -/
theorem upholds_plain (rule : Rule) {store : Store} (before : Journal) :
    Upholds rule store (fun s => before.Plain s.journal) (fun s => before.Plain s.journal)
      fun e s => (∀ name, e ≠ some (.unknownState name)) ∧ before.Plain s.journal where
  entered _ _ h := h
  bound _ _ _ h := h
  take _ _ _ h := h
  take_stopped _ _ _ h := h
  executed _ _ _ _ h := h
  stopped _ _ _ _ _ _ h := h
  write _ _ _ _ _ _ _ _ h := h
  say _ _ _ h := h.add (by simp [Line.isSuccess])
  warn _ _ h := h.add rfl
  warn_stopped _ _ h := h.add rfl
  raises _ _ _ _ _ hraises h := ⟨fun name heq => hraises.ne.2 name (Option.some.inj heq), h⟩
  missing _ _ _ _ _ _ _ h := ⟨nofun, h⟩

theorem runWith_plain (rule : Rule) (store : Store) (key : String) (v : Value) (before : Journal)
    (allowance : Nat) :
    let run := rule.runWith store key v before allowance
    (∀ name, run.1 ≠ .failed (.unknownState name)) ∧ before.Plain run.2.journal := by
  unfold Rule.runWith
  split
  · next vars _ =>
    have hrun := (upholds_plain rule before).triple_runWithin store (fun _ h => ⟨nofun, h⟩)
      (rule.size + allowance) ⟨vars, before, []⟩ before.plain_refl
    generalize rule.runWithin store (rule.size + allowance) ⟨vars, before, []⟩ = run at hrun
    obtain ⟨ending, t⟩ := run
    cases ending with
    | done verdict => exact ⟨nofun, hrun.2.elim id id⟩
    | failed e => exact ⟨fun name heq => hrun.1 name (congrArg some (Ending.failed.inj heq)), hrun.2⟩
    | unfinished => exact ⟨nofun, hrun.2⟩
  · next e herror =>
    refine ⟨fun name heq => ?_, before.plain_refl⟩
    cases heq
    unfold Variables.set at herror
    split at herror <;> cases herror

end Runs

end StageGate
