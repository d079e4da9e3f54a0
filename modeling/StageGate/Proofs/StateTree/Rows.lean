import Mathlib.Data.List.Perm.Basic
import StageGate.Proofs.StateTree
import StageGate.Text.Blank

/-! The rows of a state tree: each record has one of them, in the block of its state. -/
namespace StageGate

/-- Texts without line breaks, each on a line of its own, are the lines of what they make. -/
theorem Text.split_lines {rows : List String} (h : ∀ row ∈ rows, '\n' ∉ row.toList) :
    split '\n' (String.join (rows.map (· ++ "\n"))) = rows ++ [""] := by
  have hchars : splitChars '\n' (String.join (rows.map (· ++ "\n"))).toList =
      rows.map String.toList ++ [[]] := by
    induction rows with
    | nil => simp [splitChars]
    | cons row rows ih =>
      obtain ⟨hrow, hrows⟩ := List.forall_mem_cons.mp h
      have hjoin : (String.join ((row :: rows).map (· ++ "\n"))).toList =
          row.toList ++ '\n' :: (String.join (rows.map (· ++ "\n"))).toList := by
        simp [String.toList_join]
      rw [hjoin, splitChars_append, splitChars_whole hrow, ih hrows]
      rfl
  rw [split, hchars, List.map_append, List.map_map]
  simp

/-- Groups by different keys that cover all items are the items in another order. -/
theorem perm_flatMap_filter {α κ : Type} [DecidableEq κ] {keys : List κ} {items : List α}
    (key : α → κ) (hkeys : keys.Nodup) (hall : ∀ item ∈ items, key item ∈ keys) :
    (keys.flatMap fun k => items.filter (key · = k)).Perm items := by
  induction keys generalizing items with
  | nil =>
    obtain rfl : items = [] := List.eq_nil_iff_forall_not_mem.mpr fun item hitem =>
      List.not_mem_nil (hall item hitem)
    exact .refl _
  | cons k keys ih =>
    obtain ⟨hfresh, hkeys⟩ := List.nodup_cons.mp hkeys
    -- the groups behind the first are those of the items that it leaves
    have hrest : (keys.flatMap fun k' => items.filter (key · = k')) =
        keys.flatMap fun k' => (items.filter fun item => !decide (key item = k)).filter
          (key · = k') := by
      refine List.flatMap_congr fun k' hk' => ?_
      rw [List.filter_filter]
      refine List.filter_congr fun item _ => ?_
      have hne : k' ≠ k := fun heq => hfresh (heq ▸ hk')
      by_cases hitem : key item = k'
      · simp [hitem, hne]
      · simp [hitem]
    have hleft : ∀ item ∈ items.filter (fun item => !decide (key item = k)), key item ∈ keys := by
      intro item hitem
      obtain ⟨hmem, hne⟩ := List.mem_filter.mp hitem
      exact (List.mem_cons.mp (hall item hmem)).resolve_left (by simpa using hne)
    rw [List.flatMap_cons, hrest]
    exact ((ih hkeys hleft).append_left _).trans (List.filter_append_perm _ items)

theorem nodup_eraseDups {α : Type} [DecidableEq α] (items : List α) : items.eraseDups.Nodup := by
  match items with
  | [] => exact List.nodup_nil
  | item :: items =>
    rw [List.eraseDups_cons, List.nodup_cons]
    exact ⟨by simp, nodup_eraseDups _⟩
termination_by items.length
decreasing_by
  exact Nat.lt_succ_of_le (List.length_filter_le _ _)

namespace StateTree

variable {idField stateField : String} {order : List String} {records : List Json}
  {tree : List Block} {block : Block}

def memberRow (idField mark : String) (record : Json) : String :=
  "  " ++ mark ++ " Id: " ++ fieldText record idField ++
    ((record.field? "Name").bind Json.string?).elim "" (", Name: " ++ ·)

/-- The state of a block and the number of its members, then a row for each of them; the last one
has the closing mark. -/
def Block.rows (idField : String) (block : Block) : List String :=
  ("State: " ++ block.state ++ " - Subjects count: " ++ toString block.members.length) ::
    (block.members.dropLast.map (memberRow idField "├─") ++
      block.members.getLast?.toList.map (memberRow idField "└─"))

/-- The tree has one block for each state that occurs, in the given order as far as that goes, with
all records of that state as they come. -/
structure Accounts (stateField : String) (order : List String) (records : List Json)
    (tree : List Block) : Prop where
  distinct : (tree.map Block.state).Nodup
  states : ∀ state, state ∈ tree.map Block.state ↔
    ∃ record ∈ records, fieldText record stateField = state
  ordered : ∃ others, tree.map Block.state =
      (order.filter (occurs stateField records)).eraseDups ++ others ∧
    others.Pairwise (· < ·) ∧ ∀ state ∈ others, state ∉ order
  members : ∀ block ∈ tree, block.members = recordsIn stateField block.state records

theorem memberLine_eq (idField mark : String) (record : Json) :
    memberLine idField mark record = memberRow idField mark record ++ "\n" := by
  unfold memberLine memberRow
  cases (record.field? "Name").bind Json.string? <;> rfl

theorem memberLines_eq (idField : String) (members : List Json) :
    memberLines idField members =
      (members.dropLast.map (memberRow idField "├─") ++
        members.getLast?.toList.map (memberRow idField "└─")).map (· ++ "\n") := by
  induction members with
  | nil => rfl
  | cons record members ih =>
    cases members with
    | nil => simp [memberLines, memberLine_eq]
    | cons next members =>
      rw [memberLines, ih, memberLine_eq, List.dropLast_cons_cons, List.getLast?_cons_cons]
      · rfl
      · exact nofun

theorem lines_eq (idField : String) (block : Block) :
    block.lines idField = (block.rows idField).map (· ++ "\n") := by
  rw [Block.lines, Block.rows, memberLines_eq, List.map_cons]

theorem length_rows (idField : String) (block : Block) :
    (block.rows idField).length = block.members.length + 1 := by
  have hlast : block.members.getLast?.toList.length = block.members.length -
      (block.members.length - 1) := by
    cases block.members with
    | nil => rfl
    | cons record members => simp [List.getLast?_cons]
  simp only [Block.rows, List.length_cons, List.length_append, List.length_map,
    List.length_dropLast, hlast]
  omega

theorem accounts_blocks (stateField : String) (order : List String) (records : List Json) :
    Accounts stateField order records (blocks stateField order records) := by
  obtain ⟨others, hstates, hascending, hothers⟩ := states_blocks stateField order records
  constructor
  case distinct =>
    rw [hstates, List.nodup_append]
    refine ⟨nodup_eraseDups _, hascending.imp fun hlt => Std.ne_of_lt hlt, ?_⟩
    rintro state hstate other hother rfl
    exact ((hothers state).mp hother).2
      (List.mem_filter.mp (List.mem_eraseDups.mp hstate)).1
  case states =>
    intro state
    have hoccurs : occurs stateField records state = true ↔
        ∃ record ∈ records, fieldText record stateField = state := by simp [occurs]
    rw [← hoccurs, List.mem_map]
    constructor
    · rintro ⟨block, hblock, rfl⟩
      exact (mem_blocks_iff.mp hblock).1
    · intro hstate
      exact ⟨⟨state, recordsIn stateField state records⟩, mem_blocks_iff.mpr ⟨hstate, rfl⟩, rfl⟩
  case ordered => exact ⟨others, hstates, hascending, fun state h => ((hothers state).mp h).2⟩
  case members => exact fun block hblock => (mem_blocks_iff.mp hblock).2

/-- No record is lost, and none is shown twice. -/
theorem Accounts.perm (h : Accounts stateField order records tree) :
    (tree.flatMap Block.members).Perm records := by
  have hgroups : tree.flatMap Block.members =
      (tree.map Block.state).flatMap fun state => recordsIn stateField state records := by
    rw [List.flatMap_map]
    exact List.flatMap_congr h.members
  rw [hgroups]
  refine perm_flatMap_filter (fieldText · stateField) h.distinct fun record hrecord => ?_
  exact (h.states _).mpr ⟨record, hrecord, rfl⟩

theorem length_flatMap_rows (idField : String) (tree : List Block) :
    (tree.flatMap (Block.rows idField)).length =
      tree.length + (tree.flatMap Block.members).length := by
  induction tree with
  | nil => rfl
  | cons block tree ih =>
    rw [List.flatMap_cons, List.flatMap_cons, List.length_append, List.length_append, ih,
      length_rows, List.length_cons]
    omega

/-- The tree is printed row by row: each state that occurs has one block, with one row for each of
its records. Where no text in them has a line break, the rows are the lines of the output. -/
theorem render_accounts (idField stateField : String) (order : List String)
    (records : List Json) :
    ∃ tree, Accounts stateField order records tree ∧
      (tree.flatMap Block.members).Perm records ∧
      (tree.flatMap (Block.rows idField)).length = tree.length + records.length ∧
      render idField stateField order records =
        String.join ((tree.flatMap (Block.rows idField)).map (· ++ "\n")) ∧
      ((∀ row ∈ tree.flatMap (Block.rows idField), '\n' ∉ row.toList) →
        Text.split '\n' (render idField stateField order records) =
          tree.flatMap (Block.rows idField) ++ [""]) := by
  have haccounts := accounts_blocks stateField order records
  have hrender : render idField stateField order records = String.join
      (((blocks stateField order records).flatMap (Block.rows idField)).map (· ++ "\n")) := by
    rw [render, List.map_flatMap]
    exact congrArg String.join (List.flatMap_congr fun block _ => lines_eq idField block)
  refine ⟨_, haccounts, haccounts.perm, ?_, hrender, fun hrows => ?_⟩
  · rw [length_flatMap_rows, haccounts.perm.length_eq]
  · rw [hrender, Text.split_lines hrows]

/-- Two records without a state, one of them no object, and one in a state that the order has
twice. -/
example : render "Id" "State" ["Open", "Done", "Open"]
      [.null, .object [("Id", .string "Ana"), ("State", .string "Open")],
        .object [("Name", .string "Ben")]] =
    "State: Open - Subjects count: 1\n  └─ Id: Ana\n" ++
      "State:  - Subjects count: 2\n  ├─ Id: \n  └─ Id: , Name: Ben\n" := by
  rfl

end StateTree
end StageGate
