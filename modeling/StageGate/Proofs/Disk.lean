import StageGate.Command.Answer
import StageGate.Disk.Tree
import StageGate.Proofs.Except

/-! What the commands do to files in memory: reading leaves them as they are, and writing changes
the one file that is named. -/
namespace StageGate

/-- A name that is joined to a directory stays the last piece. -/
theorem FileName.split_join {directory name : String} (h : '/' ∉ name.toList) :
    (Text.split '/' (join directory name)).getLast? = some name := by
  unfold join Text.split
  split
  · simp [Text.splitChars_whole h]
  · split
    · next hslash =>
      obtain ⟨above, habove⟩ := List.getLast?_eq_some_iff.mp hslash
      rw [String.toList_append, habove, List.append_assoc, List.singleton_append,
        Text.splitChars_append, Text.splitChars_whole h]
      simp
    · rw [String.toList_append, String.toList_append, List.append_assoc,
        show "/".toList = ['/'] from rfl, List.singleton_append, Text.splitChars_append,
        Text.splitChars_whole h]
      simp

/-- A file whose extension is not that of YAML holds a JSON document. -/
theorem Rule.ofFile_of_parse {name text : String} {document : Json}
    (hyaml : Rule.isYamlFile name = false) (hparse : Json.parse text = .ok document) :
    Rule.ofFile name text = Rule.ofJson document (FileName.stem? name) := by
  rw [Rule.ofFile, hyaml, if_neg Bool.false_ne_true, Rule.ofJsonText, hparse]

namespace FileTree

variable {α β γ : Type} {view : FileTree → γ} {tree after : FileTree} {place other : List String}
  {name text : String}

/-- The computation changes nothing of the tree that shows in the view. -/
def Leaves (view : FileTree → γ) (x : StateM FileTree α) : Prop :=
  ∀ tree, view (x.run tree).2 = view tree

theorem leaves_pure (a : α) : Leaves view (pure a) := fun _ => rfl

theorem Leaves.bind {x : StateM FileTree α} {f : α → StateM FileTree β} (hx : Leaves view x)
    (hf : ∀ a, Leaves view (f a)) : Leaves view (x >>= f) := fun tree =>
  (hf (x.run tree).1 (x.run tree).2).trans (hx tree)

theorem Leaves.mapM {f : α → StateM FileTree β} (hf : ∀ a, Leaves view (f a)) (items : List α) :
    Leaves view (items.mapM f) := by
  induction items with
  | nil => exact leaves_pure []
  | cons item items ih =>
    rw [List.mapM_cons]
    exact (hf item).bind fun _ => ih.bind fun _ => leaves_pure _

theorem leaves_read (name : String) : Leaves view (disk.read name) := fun _ => rfl

theorem leaves_readRule (name : String) : Leaves view (disk.readRule name) := by
  refine (leaves_read name).bind fun text => ?_
  split <;> exact leaves_pure _

theorem leaves_readRules (settings : Settings) (states : List String) :
    Leaves view (disk.readRules settings states) :=
  Leaves.mapM (fun _ => (leaves_readRule _).bind fun _ => leaves_pure _) states

theorem leaves_readData (name : String) : Leaves view (disk.readData name) := by
  refine Leaves.bind ((leaves_read name).bind fun text => ?_) fun _ => leaves_pure _
  split
  · exact leaves_pure _
  · split <;> exact leaves_pure _

@[simp] theorem run_read_disk (tree : FileTree) (name : String) :
    (disk.read name).run tree = pure (tree.read name, tree) := rfl

theorem run_readRule (hread : tree.read name = .ok text) :
    (disk.readRule name).run tree = pure (some <$> Rule.ofFile name text, tree) := by
  simp [Disk.readRule, hread]

theorem run_readRule_eq (name : String) (tree : FileTree) :
    (disk.readRule name).run tree = pure (((disk.readRule name).run tree).1, tree) := by
  have hleaves : Leaves id (disk.readRule name) := leaves_readRule name
  exact Prod.ext rfl (hleaves tree)

/-- The rule of each state is what its own file holds, whatever is read before. -/
theorem run_readRules (settings : Settings) (states : List String) (tree : FileTree) :
    (disk.readRules settings states).run tree =
      pure (states.map fun state =>
        (state, ((disk.readRule (Disk.ruleFile settings state)).run tree).1), tree) := by
  unfold Disk.readRules
  induction states with
  | nil => rfl
  | cons state states ih =>
    rw [List.mapM_cons, StateT.run_bind, StateT.run_bind, run_readRule_eq]
    simp only [pure_bind, StateT.run_bind, StateT.run_pure, ih, List.map_cons]

theorem run_readText (tree : FileTree) (name : String) :
    (disk.readText name).run tree = pure ((tree.read name).mapError fun fault =>
      (Failure.ofFault fault).during ("Failed to read " ++ name), tree) := by
  simp [Disk.readText]

theorem run_readData {document : Json} {store : Store} (hread : tree.read name = .ok text)
    (hparse : Json.parse text = .ok document) (hstore : Store.ofJson document = .ok store) :
    ((disk.readData name).run tree).1 = .ok store := by
  simp only [Disk.readData, Disk.readStore, bind_assoc, StateT.run_bind, run_read_disk, pure_bind,
    hread, hparse, hstore]
  rfl

theorem lookup_filter (h : other ≠ place) (files : List (List String × String)) :
    (files.filter (·.1 != place)).lookup other = files.lookup other := by
  induction files with
  | nil => rfl
  | cons file files ih =>
    obtain ⟨there, text⟩ := file
    by_cases hthere : there = place
    · subst hthere
      simp [List.lookup_cons, beq_eq_false_iff_ne.mpr h, ih]
    · simp [List.lookup_cons, hthere, ih]

theorem lookup_put (h : other ≠ place) (tree : FileTree) (text : String) :
    (tree.put place text).files.lookup other = tree.files.lookup other := by
  unfold put
  split
  · rfl
  · rw [List.lookup_cons, beq_eq_false_iff_ne.mpr h]
    exact lookup_filter h tree.files

/-- Directories are made; no file is. -/
theorem files_makeDirectories {pieces : List String}
    (h : tree.makeDirectories place pieces = .ok after) : after.files = tree.files := by
  induction pieces generalizing tree place with
  | nil =>
    cases h
    rfl
  | cons piece rest ih =>
    obtain ⟨reached, -, hrest⟩ := bind_eq_ok_iff.mp h
    dsimp only at hrest
    split at hrest
    · cases hrest
    · exact ih hrest
    · exact (ih hrest).trans rfl

theorem getLast?_enter {piece : String} {reached : List String}
    (h : tree.enter place piece = .ok reached) (hup : piece ≠ "..") :
    reached = place ∧ tree.entry place = .directory ∨ reached = place ++ [piece] := by
  unfold enter at h
  split at h
  · cases h
  · cases h
  · next hdirectory =>
    split at h
    · cases h
      exact Or.inl ⟨rfl, hdirectory⟩
    · split at h
      · cases h
      · cases h
        exact Or.inr rfl

theorem pieces_start {pieces : List String} (h : tree.start name = .ok (place, pieces)) :
    pieces = Text.split '/' name := by
  unfold start at h
  split at h
  · cases h
  split at h
  · cases h
  split at h
  · cases h
  cases h
  rfl

/-- A file is written where its name leads; all others are as before. -/
theorem lookup_write {piece : String} (h : tree.write name text = .ok after)
    (hlast : (Text.split '/' name).getLast? = some piece) (hup : piece ≠ "..")
    (hother : other.getLast? ≠ some piece) :
    after.files.lookup other = tree.files.lookup other := by
  obtain ⟨⟨place, pieces⟩, hstart, h⟩ := bind_eq_ok_iff.mp h
  obtain rfl := pieces_start hstart
  dsimp only at h
  split at h
  · cases h
  · next last above hpieces =>
    obtain ⟨directory, -, h⟩ := bind_eq_ok_iff.mp h
    rw [hlast] at h
    split at h
    · cases h
    · next hnamed =>
      -- the name has no slash at its end, so that its last piece is that of the file
      obtain rfl : piece = last := by
        obtain ⟨front, hfront⟩ := List.getLast?_eq_some_iff.mp hlast
        rw [hfront, List.reverse_concat, List.dropWhile_cons_of_neg (by simpa using hnamed)]
          at hpieces
        exact (List.cons.inj hpieces).1
      obtain ⟨reached, hreached, hput⟩ := bind_eq_ok_iff.mp h
      obtain ⟨rfl, hdirectory⟩ | rfl := getLast?_enter hreached hup
      · rw [hdirectory] at hput
        cases hput
      · split at hput
        · cases hput
        · cases hput
          refine lookup_put (fun heq => hother ?_) tree text
          rw [heq, List.getLast?_concat]

theorem leaves_makeDirectory (name : String) (place : List String) :
    Leaves (·.files.lookup place) (disk.makeDirectory name) := by
  intro tree
  cases hmade : tree.start name >>= fun found => tree.makeDirectories found.1 found.2 with
  | error fault =>
    simp only [disk, StateT.run_bind, StateT.run_get, pure_bind, hmade]
    rfl
  | ok after =>
    obtain ⟨found, -, hfound⟩ := bind_eq_ok_iff.mp hmade
    simp only [disk, StateT.run_bind, StateT.run_get, pure_bind, hmade]
    exact congrArg (List.lookup place) (files_makeDirectories hfound)

theorem leaves_write {piece : String} (name text : String)
    (hlast : (Text.split '/' name).getLast? = some piece) (hup : piece ≠ "..")
    (hplace : place.getLast? ≠ some piece) :
    Leaves (·.files.lookup place) (disk.write name text) := by
  intro tree
  cases hwrite : tree.write name text with
  | error fault =>
    simp only [disk, StateT.run_bind, StateT.run_get, pure_bind, hwrite]
    rfl
  | ok after =>
    simp only [disk, StateT.run_bind, StateT.run_get, pure_bind, hwrite]
    exact lookup_write hwrite hlast hup hplace

end FileTree
end StageGate
