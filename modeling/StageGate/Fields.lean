/-! Named fields, kept in the order of their names. -/
namespace StageGate

/-- Fields are looked up by name; `insert` keeps the names sorted and different. -/
abbrev Fields (α : Type) := List (String × α)

namespace Fields

variable {α : Type}

def find? : Fields α → String → Option α
  | [], _ => none
  | (name, value) :: rest, wanted => if name = wanted then some value else find? rest wanted

def has (fields : Fields α) (name : String) : Bool :=
  (find? fields name).isSome

def insert : Fields α → String → α → Fields α
  | [], name, value => [(name, value)]
  | (name', value') :: rest, name, value =>
    if name = name' then (name, value) :: rest
    else if name < name' then (name, value) :: (name', value') :: rest
    else (name', value') :: insert rest name value

/-- Of several entries with one name the last stays. -/
def ofList (entries : List (String × α)) : Fields α :=
  entries.foldl (fun fields entry => insert fields entry.1 entry.2) []

def names (fields : Fields α) : List String :=
  fields.map Prod.fst

theorem find?_insert (fields : Fields α) (name other : String) (value : α) :
    find? (insert fields name value) other =
      if name = other then some value else find? fields other := by
  induction fields with
  | nil => simp [insert, find?]
  | cons entry rest ih =>
    obtain ⟨name', value'⟩ := entry
    simp only [insert]
    split
    · next h => subst h; simp only [find?]; split <;> rfl
    · split
      · simp only [find?]
      · simp only [find?, ih]
        split
        · next h => split <;> simp_all
        · rfl

theorem has_of_mem_names {fields : Fields α} {name : String} (h : name ∈ names fields) :
    has fields name = true := by
  induction fields with
  | nil => cases h
  | cons entry rest ih =>
    obtain ⟨name', value⟩ := entry
    unfold has find?
    split
    · rfl
    · next hne =>
      obtain h | h := List.mem_cons.mp h
      · exact (hne h.symm).elim
      · exact ih h

theorem mem_names_iff {fields : Fields α} {name : String} :
    name ∈ names fields ↔ has fields name = true := by
  refine ⟨has_of_mem_names, fun h => ?_⟩
  induction fields with
  | nil => cases h
  | cons entry rest ih =>
    obtain ⟨name', value⟩ := entry
    unfold has find? at h
    split at h
    · next heq => exact List.mem_cons.mpr (Or.inl heq.symm)
    · exact List.mem_cons_of_mem name' (ih h)

theorem mem_names_insert {fields : Fields α} {name other : String} {value : α} :
    other ∈ names (insert fields name value) ↔ other = name ∨ other ∈ names fields := by
  rw [mem_names_iff, mem_names_iff, has, has, find?_insert]
  split
  · next h => simp [h]
  · next h => simp [Ne.symm h]

theorem pairwise_insert {fields : Fields α} (h : (names fields).Pairwise (· < ·)) (name : String)
    (value : α) : (names (insert fields name value)).Pairwise (· < ·) := by
  induction fields with
  | nil => simp [insert, names]
  | cons entry rest ih =>
    obtain ⟨name', value'⟩ := entry
    obtain ⟨hfirst, hrest⟩ := List.pairwise_cons.mp h
    simp only [insert]
    split
    · next heq =>
      subst heq
      exact h
    · next hne =>
      split
      · next hlt =>
        refine List.pairwise_cons.mpr ⟨fun other hother => ?_, h⟩
        obtain rfl | hother := List.mem_cons.mp hother
        · exact hlt
        · exact String.lt_trans hlt (hfirst other hother)
      · next hge =>
        refine List.pairwise_cons.mpr ⟨fun other hother => ?_, ih hrest⟩
        obtain rfl | hother := mem_names_insert.mp hother
        · exact Std.lt_of_le_of_ne (String.not_lt.mp hge) (Ne.symm hne)
        · exact hfirst other hother

/-- Where names do not repeat, the fields are what is found under their names. -/
theorem mem_iff_find? {fields : Fields α} (h : (names fields).Nodup) {name : String} {value : α} :
    (name, value) ∈ fields ↔ find? fields name = some value := by
  induction fields with
  | nil => simp [find?]
  | cons entry rest ih =>
    obtain ⟨name', value'⟩ := entry
    obtain ⟨hfresh, hrest⟩ := List.nodup_cons.mp h
    rw [List.mem_cons, find?, ih hrest]
    split
    · next heq =>
      subst heq
      have hnone : find? rest name' = none := by
        simpa [has] using mt mem_names_iff.mpr hfresh
      simp [hnone, eq_comm]
    · next hne => simp [Ne.symm hne]

theorem find?_filter_ne (fields : Fields α) (name other : String) :
    find? (fields.filter (·.1 != name)) other =
      if other = name then none else find? fields other := by
  induction fields with
  | nil => simp [find?]
  | cons entry rest ih =>
    obtain ⟨name', value⟩ := entry
    by_cases hname : name' = name
    · subst hname
      simp only [bne_self_eq_false, Bool.false_eq_true, not_false_eq_true, List.filter_cons_of_neg,
        ih, find?]
      split
      · rfl
      · next hne => rw [if_neg (Ne.symm hne)]
    · rw [List.filter_cons_of_pos (by simpa using hname)]
      simp only [find?, ih]
      split
      · next heq => rw [if_neg (heq ▸ hname)]
      · rfl

/-- A name that is found first is so when it is inserted again. -/
theorem find?_names_insert {fields : Fields α} {p : String → Bool} {name : String}
    (h : (names fields).find? p = some name) (value : α) :
    (names (insert fields name value)).find? p = some name := by
  have hp : p name = true := List.find?_some h
  induction fields with
  | nil => cases h
  | cons entry rest ih =>
    obtain ⟨name', value'⟩ := entry
    have here : ∀ more : List String, (name :: more).find? p = some name := fun more => by simp [hp]
    simp only [insert]
    split
    · exact here _
    · split
      · exact here _
      · next hne _ =>
        by_cases hp' : p name' = true
        · simp only [names, List.map_cons, List.find?_cons, hp'] at h
          exact (hne (Option.some.inj h).symm).elim
        · simp only [names, List.map_cons, List.find?_cons, hp'] at h ⊢
          exact ih h

theorem insert_insert (fields : Fields α) (name : String) (value value' : α) :
    insert (insert fields name value) name value' = insert fields name value' := by
  induction fields with
  | nil => simp [insert]
  | cons entry rest ih =>
    obtain ⟨name', old⟩ := entry
    by_cases hname : name = name'
    · simp [insert, hname]
    · by_cases hlt : name < name'
      · simp [insert, hname, hlt]
      · simp [insert, hname, hlt, ih]

end Fields
end StageGate
