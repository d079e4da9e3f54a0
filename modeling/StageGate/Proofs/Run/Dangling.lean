import StageGate.Command.Check
import StageGate.Proofs.Disk
import StageGate.Proofs.Run.Invariant

/-! References to missing steps: which of them a rule has, what they mean to its runs, and what it
means to pass the check for them. -/
namespace StageGate

open Effect

section Runs

variable {rule : Rule} {store : Store} {depth : Nat} {s t : Session}

theorem Rule.mem_dangling {step : Step} {id : String} (hmem : step ∈ rule.steps)
    (href : id ∈ step.references) (hmissing : rule.step? id = none) :
    (step.id, id) ∈ rule.dangling := by
  refine List.mem_flatMap.mpr ⟨step, hmem, List.mem_map.mpr ⟨id, ?_, rfl⟩⟩
  exact List.mem_filter.mpr ⟨href, by simp [hmissing]⟩

/-- A run that fails for want of a step comes from a step whose reference is dangling. -/
def Blamed (rule : Rule) : Option Error → Session → Prop
  | some (.danglingReference name id), s =>
    name = rule.name ∧ ∃ step, .executed step ∈ s.events ∧ (step.id, id) ∈ rule.dangling
  | _, _ => True

theorem blamed_of_raises {action : Action} {e : Error} {vars : Variables}
    (h : action.Raises store vars e) (s : Session) : Blamed rule (some e) s := by
  cases e with
  | danglingReference name id => exact (h.ne.1 name id rfl).elim
  | _ => trivial

theorem upholds_blamed (rule : Rule) :
    Upholds rule store (fun _ => True) (fun _ => True) (Blamed rule) where
  entered _ _ h := h
  bound _ _ _ h := h
  take _ _ _ h := h
  take_stopped _ _ _ h := h
  executed _ _ _ _ h := h
  stopped _ _ _ _ _ _ h := h
  write _ _ _ _ _ _ _ _ h := h
  say _ _ _ h := h
  warn _ _ h := h
  warn_stopped _ _ h := h
  raises s _ _ _ _ hraises _ := blamed_of_raises hraises s
  missing _ step hmem hexecuted _ href hmissing _ :=
    ⟨rfl, step, hexecuted, Rule.mem_dangling hmem href hmissing⟩

theorem blamed_of_failed {e : Error} (h : rule.runWithin store depth s = (.failed e, t)) :
    Blamed rule (some e) t :=
  ((upholds_blamed rule).triple_runWithin store (fun _ _ => trivial) depth).of_failed trivial h

end Runs

/-- In the order of the document, and at each step in the order next, then, else, body. -/
theorem Rule.dangling_eq (rule : Rule) :
    rule.dangling =
      (rule.steps.flatMap fun step => step.references.map (step.id, ·)).filter fun reference =>
        ∀ step ∈ rule.steps, step.id ≠ reference.2 := by
  have hmissing : ∀ id, (rule.step? id).isNone = decide (∀ step ∈ rule.steps, step.id ≠ id) := by
    intro id
    rw [Bool.eq_iff_iff]
    simp [Rule.step?]
  rw [List.filter_flatMap]
  refine congrArg (rule.steps.flatMap ·) (funext fun step => ?_)
  rw [List.filter_map]
  exact congrArg (List.map _) (List.filter_congr fun id _ => hmissing id)

theorem Step.references_eq (step : Step) :
    step.references = step.next.toList ++
      match step.action with
      | .branch _ yes no => yes ++ no
      | .loop _ _ body => body
      | _ => [] := by
  unfold references
  cases step.action <;> rfl

section Files

variable {tree : FileTree} {name text : String} {names : List String}

/-- The check passes a file if and only if it can be read as a rule that lacks no step. -/
theorem Check.passes_iff (hread : tree.read name = .ok text) :
    (Check.verdict name text).2 = true ↔
      ∃ rule, (FileTree.disk.readRule name).run tree = (.ok (some rule), tree) ∧
        rule.dangling = [] := by
  rw [FileTree.run_readRule hread]
  unfold verdict
  cases hrule : Rule.ofFile name text with
  | error e =>
    refine ⟨nofun, ?_⟩
    rintro ⟨rule, hfile, -⟩
    cases hfile
  | ok rule =>
    cases hdangling : rule.dangling with
    | nil => exact ⟨fun _ => ⟨rule, rfl, hdangling⟩, fun _ => by simp [hdangling]⟩
    | cons reference references =>
      refine ⟨by simp [hdangling], ?_⟩
      rintro ⟨other, hfile, hnone⟩
      cases hfile
      rw [hdangling] at hnone
      cases hnone

/-- Reading one file after another leaves the tree as it is. If all can be read, there is a verdict
on the text of each. -/
theorem Check.run_verdicts (tree : FileTree) (names : List String) :
    ∃ found failure,
      (Check.verdicts FileTree.disk names).run tree = pure ((found, failure), tree) ∧
      (failure = none → ∀ name ∈ names, ∃ text, tree.read name = .ok text ∧
        Check.verdict name text ∈ found) := by
  induction names with
  | nil => exact ⟨[], none, rfl, nofun⟩
  | cons name names ih =>
    obtain ⟨found, failure, hrest, hfound⟩ := ih
    cases hread : tree.read name with
    | error fault =>
      refine ⟨[], some ((Failure.ofFault fault).during ("Failed to read " ++ name)), ?_, nofun⟩
      simp [Check.verdicts, FileTree.run_readText, hread, Except.mapError]
    | ok text =>
      refine ⟨Check.verdict name text :: found, failure, ?_, fun hnone other hmem => ?_⟩
      · simp [Check.verdicts, FileTree.run_readText, hread, hrest, Except.mapError]
      · obtain rfl | hmem := List.mem_cons.mp hmem
        · exact ⟨text, hread, List.mem_cons_self⟩
        · obtain ⟨text, hread, hverdict⟩ := hfound hnone other hmem
          exact ⟨text, hread, List.mem_cons_of_mem _ hverdict⟩

theorem Check.passes_of_run {output : String} {after : FileTree}
    (h : (Check.run FileTree.disk names).run tree = (⟨output, none⟩, after)) (hmem : name ∈ names) :
    ∃ text, tree.read name = .ok text ∧ (Check.verdict name text).2 = true := by
  obtain ⟨found, failure, hverdicts, hfound⟩ := run_verdicts tree names
  simp only [Check.run, StateT.run_bind, hverdicts, pure_bind, StateT.run_pure] at h
  have hnone := congrArg (fun result : Answer × FileTree => result.1.failure) h
  cases failure with
  | some failure => cases hnone
  | none =>
    obtain ⟨text, hread, hverdict⟩ := hfound rfl name hmem
    refine ⟨text, hread, ?_⟩
    cases hpass : (Check.verdict name text).2 with
    | true => rfl
    | false =>
      have hcounted : Check.verdict name text ∈ found.filter (!·.2) :=
        List.mem_filter.mpr ⟨hverdict, by simp [hpass]⟩
      have hbad := Nat.ne_of_gt (List.length_pos_of_mem hcounted)
      simp only [hbad, if_false] at hnone
      cases hnone

end Files

/-- The check for dangling references is right about every run: a run fails for want of a step only
if a step that it has executed makes a reference that the check lists. What passes the check can be
read as a rule. What the check lists are all the references to steps that are not there. -/
theorem Rule.dangling_sound :
    (∀ (rule : Rule) (store : Store) (depth : Nat) (vars : Variables) (journal : Journal)
        (name id : String) (after : Session),
      rule.runWithin store depth ⟨vars, journal, []⟩ =
          (.failed (.danglingReference name id), after) →
        name = rule.name ∧
          ∃ step, .executed step ∈ after.events ∧ (step.id, id) ∈ rule.dangling) ∧
      (∀ (rule : Rule) (store : Store) (depth : Nat) (s : Session) (name id : String),
        rule.dangling = [] →
          (rule.runWithin store depth s).1 ≠ .failed (.danglingReference name id)) ∧
      (∀ (tree : FileTree) (name text : String), tree.read name = .ok text →
        ((Check.verdict name text).2 = true ↔
          ∃ rule, (FileTree.disk.readRule name).run tree = (.ok (some rule), tree) ∧
            rule.dangling = [])) ∧
      (∀ (tree after : FileTree) (names : List String) (output : String),
        (Check.run FileTree.disk names).run tree = (⟨output, none⟩, after) →
          ∀ name ∈ names, ∃ rule,
            (FileTree.disk.readRule name).run tree = (.ok (some rule), tree) ∧
              rule.dangling = []) ∧
      ∀ rule : Rule, rule.dangling =
        (rule.steps.flatMap fun step =>
          (step.next.toList ++
            match step.action with
            | .branch _ yes no => yes ++ no
            | .loop _ _ body => body
            | _ => []).map (step.id, ·)).filter
          fun reference => ∀ step ∈ rule.steps, step.id ≠ reference.2 := by
  refine ⟨?_, ?_, fun tree name text => Check.passes_iff, ?_, fun rule => ?_⟩
  · intro rule store depth vars journal name id after hrun
    exact blamed_of_failed hrun
  · intro rule store depth s name id hnone hfailed
    obtain ⟨-, step, -, hmem⟩ := blamed_of_failed (Prod.ext hfailed rfl)
    rw [hnone] at hmem
    cases hmem
  · intro tree after names output hrun name hmem
    obtain ⟨text, hread, hpass⟩ := Check.passes_of_run hrun hmem
    exact (Check.passes_iff hread).mp hpass
  · rw [Rule.dangling_eq]
    simp only [Step.references_eq]

/-- References to steps that are missing, one of each kind. -/
def frayed : Rule where
  name := "frayed"
  steps := [⟨"start", some "gone", .branch ⟨"x", "==", .bool true⟩ ["yes", "start"] ["no"]⟩,
    ⟨"again", some "start", .loop "xs" "x" ["body", "again"]⟩]
  distinct := by decide
  starts := by decide

example : frayed.dangling =
    [("start", "gone"), ("start", "yes"), ("start", "no"), ("again", "body")] := by decide

theorem dangling_sound_frayed :
    ∃ after, frayed.runWithin .empty 2 ⟨.initial, [], []⟩ =
        (.failed (.danglingReference "frayed" "no"), after) ∧
      ∃ step, .executed step ∈ after.events ∧ (step.id, "no") ∈ frayed.dangling := by
  have hblamed := Rule.dangling_sound.1 frayed .empty 2 .initial [] "frayed" "no" _ rfl
  exact ⟨_, rfl, hblamed.2⟩

end StageGate
