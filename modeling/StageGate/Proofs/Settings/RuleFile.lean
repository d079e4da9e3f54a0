import Mathlib.Logic.Basic
import StageGate.Proofs.Disk
import StageGate.Proofs.Text.Hole

/-! Which file holds the rule of a state. Patterns for the names of these files are accepted only if
the states can be told from the names. -/
namespace StageGate.Settings

/-- What stands for the state in the pattern. -/
def stateMark : List Char :=
  ['\x7b', 's', 't', 'a', 't', 'e', '\x7d']

variable (settings : Settings)

theorem two_le_length_patternPieces_iff :
    2 ≤ settings.patternPieces.length ↔ stateMark <:+: settings.rulePattern.toList :=
  Text.two_le_length_piecesAround_iff

theorem validate_eq_ok_iff : settings.validate = .ok () ↔
    stateMark <:+: settings.rulePattern.toList ∧ Text.isBlank settings.subjectKey = false := by
  rw [← two_le_length_patternPieces_iff, validate]
  split
  · next hpieces =>
    exact iff_of_false (by simp) fun h => absurd h.1 (Nat.not_le.mpr hpieces)
  · next hpieces =>
    rw [and_iff_right (Nat.not_lt.mp hpieces)]
    split <;> simp_all

theorem replaced_iff_ruleFileName {state name : String} :
    Text.Replaced stateMark state.toList settings.rulePattern.toList name.toList ↔
      name = settings.ruleFileName state := by
  rw [← String.toList_inj, ruleFileName, String.toList_ofList]
  constructor
  · intro h
    exact h.eq_fill
  · intro h
    rw [h]
    exact Text.replaced_fill _ _ _ _

theorem ruleFileName_inj {s t : String} (hmark : stateMark <:+: settings.rulePattern.toList)
    (h : settings.ruleFileName s = settings.ruleFileName t) : s = t := by
  rw [ruleFileName, ruleFileName, String.ofList_inj] at h
  exact String.toList_inj.mp (Text.fill_inj (settings.two_le_length_patternPieces_iff.mpr hmark) h)

/-- Without a mark in the pattern, one file would serve all states. -/
theorem ruleFileName_of_no_mark (hmark : ¬ stateMark <:+: settings.rulePattern.toList)
    (state : String) : settings.ruleFileName state = settings.rulePattern :=
  String.toList_inj.mp (((replaced_iff_ruleFileName settings).mpr rfl).eq_self hmark)

theorem ruleFileName_standard (state : String) :
    standard.ruleFileName state = "Rule-" ++ state ++ ".json" := by
  rw [← String.toList_inj, ruleFileName, patternPieces_standard, String.toList_ofList,
    String.toList_append, String.toList_append]
  rfl

/-- Unless the settings say otherwise, each state has its file in the directory of rules. -/
theorem ruleFile_standard (state : String) :
    Disk.ruleFile standard state = "rules/Rule-" ++ state ++ ".json" := by
  have hrelative : FileName.isAbsolute (standard.ruleFileName state) = false := by
    simp [ruleFileName_standard, FileName.isAbsolute]
  rw [Disk.ruleFile, FileName.join, hrelative, if_neg (by decide), if_neg (by decide),
    ruleFileName_standard, ← String.toList_inj]
  simp only [String.toList_append]
  rfl

theorem ruleFileNames_apart_iff :
    (∀ s t, s ≠ t → settings.ruleFileName s ≠ settings.ruleFileName t) ↔
      stateMark <:+: settings.rulePattern.toList := by
  constructor
  · intro h
    by_contra hmark
    apply h "A" "B" (by decide)
    rw [ruleFileName_of_no_mark settings hmark, ruleFileName_of_no_mark settings hmark]
  · intro hmark s t hne hsame
    exact hne (settings.ruleFileName_inj hmark hsame)

/-- Settings are accepted only if there is a mark in the pattern, and exactly then no two states
share the name of a rule file. The name is the pattern with the state in place of each mark. For a
state the file of just this name, seen from the directory of rules, is read. -/
theorem rule_files_apart :
    (settings.validate = .ok () ↔
      stateMark <:+: settings.rulePattern.toList ∧ Text.isBlank settings.subjectKey = false) ∧
      ((∀ s t, s ≠ t → settings.ruleFileName s ≠ settings.ruleFileName t) ↔
        stateMark <:+: settings.rulePattern.toList) ∧
      (∀ state name : String,
        Text.Replaced stateMark state.toList settings.rulePattern.toList name.toList ↔
          name = settings.ruleFileName state) ∧
      (∀ state, Disk.ruleFile settings state =
        FileName.join settings.rulesDir (settings.ruleFileName state)) ∧
      ∀ states tree, ((FileTree.disk.readRules settings states).run tree).1 =
        states.map fun state => (state, ((FileTree.disk.readRule
          (FileName.join settings.rulesDir (settings.ruleFileName state))).run tree).1) := by
  refine ⟨validate_eq_ok_iff settings, ruleFileNames_apart_iff settings,
    fun state name => replaced_iff_ruleFileName settings, fun state => rfl, fun states tree => ?_⟩
  rw [FileTree.run_readRules]
  rfl

/-- The mark itself may be a state. -/
theorem rule_files_apart_markAsState :
    let settings := { standard with rulePattern := "\x7bstate\x7d\x7bstate\x7d" }
    settings.validate = .ok () ∧ "\x7bstate\x7d" ≠ "A" ∧
      settings.ruleFileName "\x7bstate\x7d" ≠ settings.ruleFileName "A" := by
  intro settings
  have hmark : stateMark <:+: settings.rulePattern.toList := ⟨[], stateMark, by decide⟩
  obtain ⟨haccepted, hapart, -⟩ := rule_files_apart settings
  exact ⟨haccepted.mpr ⟨hmark, by decide⟩, by decide, hapart.mpr hmark _ _ (by decide)⟩

end StageGate.Settings
