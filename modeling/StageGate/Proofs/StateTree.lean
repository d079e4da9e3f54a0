import Mathlib.Data.List.Induction
import StageGate.StateTree

/-! Which groups a state tree has, in which order, and which records are in each of them. -/
namespace StageGate.StateTree

variable {stateField state : String} {order : List String} {records : List Json}
  {found : Fields (List Json)} {block : Block}

/-- The records whose state has this text. -/
def recordsIn (stateField state : String) (records : List Json) : List Json :=
  records.filter (fieldText · stateField = state)

/-- Some record has this text for its state. -/
def occurs (stateField : String) (records : List Json) (state : String) : Bool :=
  records.any (fieldText · stateField = state)

theorem occurs_iff :
    occurs stateField records state = true ↔
      ∃ record, record ∈ recordsIn stateField state records := by
  simp [occurs, recordsIn]

section Grouping

theorem groups_concat (stateField : String) (records : List Json) (record : Json) :
    groups stateField (records ++ [record]) =
      Fields.insert (groups stateField records) (fieldText record stateField)
        (((Fields.find? (groups stateField records) (fieldText record stateField)).getD []) ++
          [record]) := by
  simp [groups]

/-- A group is found where there are records for it, and holds them in their order. -/
theorem find?_groups (stateField : String) (records : List Json) (state : String) :
    Fields.find? (groups stateField records) state =
      if occurs stateField records state then some (recordsIn stateField state records)
      else none := by
  induction records using List.reverseRecOn with
  | nil => rfl
  | append_singleton records record ih =>
    rw [groups_concat, Fields.find?_insert]
    by_cases hstate : fieldText record stateField = state
    · subst hstate
      have hnone : occurs stateField records (fieldText record stateField) = false →
          recordsIn stateField (fieldText record stateField) records = [] := by
        simp [occurs, recordsIn]
      rw [ih]
      cases hoccurs : occurs stateField records (fieldText record stateField) <;>
        simp_all [occurs, recordsIn]
    · rw [if_neg hstate, ih]
      simp [occurs, recordsIn, hstate]

theorem names_groups (stateField : String) (records : List Json) :
    (Fields.names (groups stateField records)).Pairwise (· < ·) := by
  induction records using List.reverseRecOn with
  | nil => exact .nil
  | append_singleton records record ih =>
    rw [groups_concat]
    exact Fields.pairwise_insert ih _ _

end Grouping

section Arranging

theorem has_filter_ne (found : Fields (List Json)) (state other : String) :
    Fields.has (found.filter (·.1 != state)) other =
      (other != state && Fields.has found other) := by
  unfold Fields.has
  rw [Fields.find?_filter_ne]
  split <;> simp_all

theorem names_filter_ne (found : Fields (List Json)) (state : String) :
    Fields.names (found.filter (·.1 != state)) = (Fields.names found).filter (· != state) := by
  rw [Fields.names, Fields.names, List.filter_map]
  rfl

/-- First the states of the order that are found, each where it comes first; then those that the
order does not have. -/
theorem states_arrange (order : List String) (found : Fields (List Json)) :
    (arrange order found).map Block.state =
      (order.filter (Fields.has found)).eraseDups ++
        (Fields.names found).filter (· ∉ order) := by
  induction order generalizing found with
  | nil =>
    have hall : (Fields.names found).filter (· ∉ []) = Fields.names found :=
      List.filter_eq_self.mpr (by simp)
    rw [hall, arrange, List.map_map]
    rfl
  | cons state order ih =>
    unfold arrange
    cases hstate : Fields.find? found state with
    | none =>
      have hhas : Fields.has found state = false := by simp [Fields.has, hstate]
      have hfresh : ∀ name ∈ Fields.names found, name ≠ state := by
        rintro name hname rfl
        rw [Fields.mem_names_iff, hhas] at hname
        cases hname
      rw [List.filter_cons_of_neg (by simp [hhas]), ih]
      refine congrArg _ (List.filter_congr fun name hname => ?_)
      simp [hfresh name hname]
    | some members =>
      have hhas : Fields.has found state = true := by simp [Fields.has, hstate]
      have hrest : order.filter (Fields.has (found.filter (·.1 != state))) =
          (order.filter (Fields.has found)).filter (!· == state) := by
        rw [List.filter_filter]
        exact List.filter_congr fun name _ => has_filter_ne found state name
      have hothers : ((Fields.names found).filter (· != state)).filter (· ∉ order) =
          (Fields.names found).filter (· ∉ state :: order) := by
        rw [List.filter_filter]
        refine List.filter_congr fun name _ => ?_
        by_cases hname : name = state <;> simp [hname]
      rw [List.filter_cons_of_pos hhas, List.eraseDups_cons, List.map_cons, ih, names_filter_ne,
        hrest, hothers, List.cons_append]

/-- The blocks are the groups that are found. -/
theorem mem_arrange (order : List String) (hdistinct : (Fields.names found).Nodup) :
    block ∈ arrange order found ↔ Fields.find? found block.state = some block.members := by
  induction order generalizing found with
  | nil =>
    rw [← Fields.mem_iff_find? hdistinct, arrange, List.mem_map]
    constructor
    · rintro ⟨⟨state, members⟩, hmem, rfl⟩
      exact hmem
    · intro hmem
      exact ⟨(block.state, block.members), hmem, rfl⟩
  | cons state order ih =>
    have hrest : (Fields.names (found.filter (·.1 != state))).Nodup := by
      rw [names_filter_ne]
      exact hdistinct.filter _
    unfold arrange
    cases hstate : Fields.find? found state with
    | none => exact ih hdistinct
    | some members =>
      dsimp only
      rw [List.mem_cons, ih hrest, Fields.find?_filter_ne]
      by_cases hblock : block.state = state
      · obtain ⟨name, inside⟩ := block
        dsimp only at hblock ⊢
        subst hblock
        simp [hstate, eq_comm]
      · have hne : block ≠ ⟨state, members⟩ := fun heq => hblock (congrArg Block.state heq)
        simp [hblock, hne]

end Arranging

/-- A block shows all records of its state, in their order, and at least one. -/
theorem mem_blocks_iff :
    block ∈ blocks stateField order records ↔
      occurs stateField records block.state = true ∧
        block.members = recordsIn stateField block.state records := by
  have hdistinct : (Fields.names (groups stateField records)).Nodup :=
    List.Pairwise.imp (fun hlt => Std.ne_of_lt hlt) (names_groups stateField records)
  rw [blocks, mem_arrange order hdistinct, find?_groups]
  split
  · next h => simp [h, eq_comm]
  · next h => simp [h]

theorem has_groups (stateField : String) (records : List Json) (state : String) :
    Fields.has (groups stateField records) state = occurs stateField records state := by
  rw [Fields.has, find?_groups]
  split <;> simp_all

/-- The states of the order that occur come first, where they stand in it; the other states come
after them, in ascending order. -/
theorem states_blocks (stateField : String) (order : List String) (records : List Json) :
    ∃ others, (blocks stateField order records).map Block.state =
        (order.filter (occurs stateField records)).eraseDups ++ others ∧
      others.Pairwise (· < ·) ∧
      ∀ state, state ∈ others ↔ occurs stateField records state = true ∧ state ∉ order := by
  have hhas : Fields.has (groups stateField records) = occurs stateField records :=
    funext (has_groups stateField records)
  refine ⟨_, hhas ▸ states_arrange order (groups stateField records),
    (names_groups stateField records).filter _, fun state => ?_⟩
  rw [List.mem_filter, Fields.mem_names_iff, has_groups, decide_eq_true_iff]

/-- A record is in the group that has the text of its state, and in no other. -/
theorem mem_group_iff {record : Json} (h : record ∈ records) :
    (∃ block ∈ blocks stateField order records, block.state = state ∧ record ∈ block.members) ↔
      fieldText record stateField = state := by
  constructor
  · rintro ⟨block, hblock, rfl, hmem⟩
    rw [(mem_blocks_iff.mp hblock).2] at hmem
    simpa [recordsIn] using (List.mem_filter.mp hmem).2
  · rintro rfl
    have hmem : record ∈ recordsIn stateField (fieldText record stateField) records :=
      List.mem_filter.mpr ⟨h, by simp⟩
    exact ⟨⟨fieldText record stateField, _⟩,
      mem_blocks_iff.mpr ⟨occurs_iff.mpr ⟨record, hmem⟩, rfl⟩, rfl, hmem⟩

theorem eraseDups_of_nodup {names : List String} (h : names.Nodup) : names.eraseDups = names := by
  induction names with
  | nil => rfl
  | cons name names ih =>
    obtain ⟨hfresh, hrest⟩ := List.nodup_cons.mp h
    have hkept : names.filter (!· == name) = names := by
      refine List.filter_eq_self.mpr fun other hother => ?_
      simpa using fun heq : other = name => hfresh (heq ▸ hother)
    rw [List.eraseDups_cons, hkept, ih hrest]

end StageGate.StateTree
