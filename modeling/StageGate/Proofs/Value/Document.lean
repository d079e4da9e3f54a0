import StageGate.Value

/-! Documents as values and values as documents: what comes back from the other side as it was. -/
namespace StageGate

theorem map_eq_self_iff {α : Type} {f : α → α} {xs : List α} :
    xs.map f = xs ↔ ∀ x ∈ xs, f x = x := by
  have hid : xs.map f = xs.map id ↔ ∀ x ∈ xs, f x = id x := List.map_inj_left
  rwa [List.map_id] at hid

theorem sizeOf_snd_lt {α : Type} [SizeOf α] {field : String × α} {fields : List (String × α)}
    (hmem : field ∈ fields) : sizeOf field.2 < sizeOf fields := by
  have hfield := List.sizeOf_lt_of_mem hmem
  have hvalue : sizeOf field.2 < sizeOf field := by
    obtain ⟨name, value⟩ := field
    simp only [Prod.mk.sizeOf_spec]
    omega
  exact Nat.lt_trans hvalue hfield

namespace Whole

theorem toInt64?_ofInt64 (n : Int64) : (ofInt64 n).toInt64? = some n := by
  have hsmall : (ofInt64 n).val < 0x8000000000000000 := n.toInt_lt
  rw [toInt64?, if_pos hsmall, ofInt64, Int64.ofInt_toInt]

theorem ofInt64_of_toInt64? {n : Whole} {i : Int64} (h : n.toInt64? = some i) : ofInt64 i = n := by
  unfold toInt64? at h
  split at h
  · next hsmall =>
    obtain rfl := Option.some.inj h
    have hval : (Int64.ofInt n.val).toInt = n.val := Int64.toInt_ofInt_of_le n.lower hsmall
    obtain ⟨val, lower, upper⟩ := n
    simpa only [ofInt64, Whole.mk.injEq] using hval
  · cases h

theorem isSome_toInt64?_iff {n : Whole} :
    n.toInt64?.isSome ↔ -0x8000000000000000 ≤ n.val ∧ n.val < 0x8000000000000000 := by
  unfold toInt64?
  split
  · next hsmall => exact iff_of_true rfl ⟨n.lower, hsmall⟩
  · next hlarge => exact iff_of_false nofun fun h => hlarge h.2

end Whole

namespace Json

/-- `part` stands in the document, at any depth. -/
inductive Inside (part : Json) : Json → Prop
  | self : Inside part part
  | item {item : Json} {items : List Json} (hmem : item ∈ items) (h : Inside part item) :
    Inside part (array items)
  | field {name : String} {value : Json} {fields : List (String × Json)}
    (hmem : (name, value) ∈ fields) (h : Inside part value) : Inside part (object fields)

/-- What holds of a document where it holds of the items and fields holds of every document. -/
@[elab_as_elim]
theorem induction_on_parts {motive : Json → Prop} (null : motive null) (bool : ∀ b, motive (bool b))
    (whole : ∀ n, motive (whole n)) (float : ∀ x, motive (float x))
    (string : ∀ s, motive (string s))
    (array : ∀ items, (∀ item ∈ items, motive item) → motive (array items))
    (object : ∀ fields, (∀ field ∈ fields, motive field.2) → motive (object fields)) :
    ∀ d, motive d
  | .null => null
  | .bool b => bool b
  | .whole n => whole n
  | .float x => float x
  | .string s => string s
  | .array items => array items fun item _ =>
    induction_on_parts null bool whole float string array object item
  | .object fields => object fields fun field hmem =>
    have := sizeOf_snd_lt hmem
    induction_on_parts null bool whole float string array object field.2

end Json

namespace Value

/-- `part` stands in the value, at any depth. -/
inductive Inside (part : Value) : Value → Prop
  | self : Inside part part
  | item {item : Value} {items : List Value} (hmem : item ∈ items) (h : Inside part item) :
    Inside part (list items)
  | field {name : String} {value : Value} {fields : List (String × Value)}
    (hmem : (name, value) ∈ fields) (h : Inside part value) : Inside part (record fields)

@[elab_as_elim]
theorem induction_on_parts {motive : Value → Prop} (null : motive null)
    (bool : ∀ b, motive (bool b)) (int : ∀ n, motive (int n)) (float : ∀ x, motive (float x))
    (string : ∀ s, motive (string s)) (dateTime : ∀ t, motive (dateTime t))
    (list : ∀ items, (∀ item ∈ items, motive item) → motive (list items))
    (record : ∀ fields, (∀ field ∈ fields, motive field.2) → motive (record fields)) :
    ∀ v, motive v
  | .null => null
  | .bool b => bool b
  | .int n => int n
  | .float x => float x
  | .string s => string s
  | .dateTime t => dateTime t
  | .list items => list items fun item _ =>
    induction_on_parts null bool int float string dateTime list record item
  | .record fields => record fields fun field hmem =>
    have := sizeOf_snd_lt hmem
    induction_on_parts null bool int float string dateTime list record field.2

theorem ofItemsWith_eq_map (leaf : String → Value) (items : List Json) :
    ofItemsWith leaf items = items.map (ofJsonWith leaf) := by
  induction items with
  | nil => rfl
  | cons item items ih => rw [ofItemsWith, ih, List.map_cons]

theorem ofFieldsWith_eq_map (leaf : String → Value) (fields : List (String × Json)) :
    ofFieldsWith leaf fields = fields.map (Prod.map id (ofJsonWith leaf)) := by
  induction fields with
  | nil => rfl
  | cons field fields ih => rw [ofFieldsWith, ih, List.map_cons, Prod.map, id]

theorem itemsToJson_eq_map (items : List Value) : itemsToJson items = items.map toJson := by
  induction items with
  | nil => rfl
  | cons item items ih => rw [itemsToJson, ih, List.map_cons]

theorem fieldsToJson_eq_map (fields : List (String × Value)) :
    fieldsToJson fields = fields.map (Prod.map id toJson) := by
  induction fields with
  | nil => rfl
  | cons field fields ih => rw [fieldsToJson, ih, List.map_cons, Prod.map, id]

theorem toJson_ofJson_whole_iff {n : Whole} :
    (ofJson (.whole n)).toJson = .whole n ↔ n.toInt64?.isSome := by
  rw [ofJson, ofJsonWith]
  cases hn : n.toInt64? with
  | some i =>
    refine iff_of_true ?_ rfl
    rw [toJson, Whole.ofInt64_of_toInt64? hn]
  | none =>
    refine iff_of_false ?_ nofun
    cases Binary64.ofInt n.val <;> simp [toJson]

theorem toJson_ofJson_array_iff {items : List Json} :
    (ofJson (.array items)).toJson = .array items ↔
      ∀ item ∈ items, (ofJson item).toJson = item := by
  rw [ofJson, ofJsonWith, toJson, ofItemsWith_eq_map, itemsToJson_eq_map, List.map_map,
    Json.array.injEq, map_eq_self_iff]
  rfl

theorem toJson_ofJson_object_iff {fields : List (String × Json)} :
    (ofJson (.object fields)).toJson = .object fields ↔
      ∀ field ∈ fields, (ofJson field.2).toJson = field.2 := by
  rw [ofJson, ofJsonWith, toJson, ofFieldsWith_eq_map, fieldsToJson_eq_map, List.map_map,
    Json.object.injEq, map_eq_self_iff]
  simp [Prod.ext_iff]

/-- A document comes back from its value if and only if its integers have 64 signed bits. -/
theorem toJson_ofJson_iff (d : Json) :
    (ofJson d).toJson = d ↔ ∀ n, Json.Inside (.whole n) d →
      -0x8000000000000000 ≤ n.val ∧ n.val < 0x8000000000000000 := by
  induction d using Json.induction_on_parts with
  | null | bool | float | string => exact iff_of_true rfl fun n h => nomatch h
  | whole n =>
    rw [toJson_ofJson_whole_iff, Whole.isSome_toInt64?_iff]
    constructor
    · rintro h _ ⟨⟩
      exact h
    · intro h
      exact h n .self
  | array items ih =>
    rw [toJson_ofJson_array_iff]
    constructor
    · rintro h n (_ | ⟨hmem, hn⟩)
      exact (ih _ hmem).mp (h _ hmem) n hn
    · intro h item hmem
      exact (ih item hmem).mpr fun n hn => h n (.item hmem hn)
  | object fields ih =>
    rw [toJson_ofJson_object_iff]
    constructor
    · rintro h n (_ | _ | ⟨hmem, hn⟩)
      exact (ih _ hmem).mp (h _ hmem) n hn
    · intro h field hmem
      exact (ih field hmem).mpr fun n hn => h n (.field hmem hn)

theorem ofJson_toJson_list_iff {items : List Value} :
    ofJson (list items).toJson = list items ↔ ∀ item ∈ items, ofJson item.toJson = item := by
  rw [toJson, ofJson, ofJsonWith, ofItemsWith_eq_map, itemsToJson_eq_map, List.map_map,
    list.injEq, map_eq_self_iff]
  rfl

theorem ofJson_toJson_record_iff {fields : List (String × Value)} :
    ofJson (record fields).toJson = record fields ↔
      ∀ field ∈ fields, ofJson field.2.toJson = field.2 := by
  rw [toJson, ofJson, ofJsonWith, ofFieldsWith_eq_map, fieldsToJson_eq_map, List.map_map,
    record.injEq, map_eq_self_iff]
  simp [Prod.ext_iff]

/-- Neither a date-time nor a number that is not finite. -/
def HasDocument : Value → Prop
  | dateTime _ => False
  | float x => ∃ y, x = .finite y
  | _ => True

/-- A value comes back from its document if and only if it holds no date-time and no number that is
not finite. -/
theorem ofJson_toJson_iff (v : Value) :
    ofJson v.toJson = v ↔ ∀ part, Inside part v → part.HasDocument := by
  induction v using induction_on_parts with
  | null | bool | string =>
    refine iff_of_true rfl ?_
    rintro _ ⟨⟩
    trivial
  | int n =>
    refine iff_of_true ?_ ?_
    · rw [toJson, ofJson, ofJsonWith, Whole.toInt64?_ofInt64]
    · rintro _ ⟨⟩
      trivial
  | float x =>
    cases x with
    | finite y =>
      refine iff_of_true rfl ?_
      rintro _ ⟨⟩
      exact ⟨y, rfl⟩
    | infinite | nan =>
      refine iff_of_false nofun fun h => ?_
      obtain ⟨y, hy⟩ := h _ .self
      cases hy
  | dateTime t => exact iff_of_false nofun fun h => h _ .self
  | list items ih =>
    rw [ofJson_toJson_list_iff]
    constructor
    · rintro h part (_ | ⟨hmem, hpart⟩)
      · trivial
      · exact (ih _ hmem).mp (h _ hmem) part hpart
    · intro h item hmem
      exact (ih item hmem).mpr fun part hpart => h part (.item hmem hpart)
  | record fields ih =>
    rw [ofJson_toJson_record_iff]
    constructor
    · rintro h part (_ | _ | ⟨hmem, hpart⟩)
      · trivial
      · exact (ih _ hmem).mp (h _ hmem) part hpart
    · intro h field hmem
      exact (ih field hmem).mpr fun part hpart => h part (.field hmem hpart)

/-- Documents come back from their values except for integers beyond 64 signed bits, and values from
their documents except for date-times and for numbers that are not finite. A number keeps its
representation on the way. -/
theorem comes_back_iff :
    (∀ d : Json, (ofJson d).toJson = d ↔
      ∀ n, Json.Inside (.whole n) d →
        -0x8000000000000000 ≤ n.val ∧ n.val < 0x8000000000000000) ∧
    (∀ v : Value, ofJson v.toJson = v ↔ ∀ part, Inside part v → part.HasDocument) ∧
    ∀ (n : Int64) (x : Binary64), (int n).toJson ≠ (float x).toJson := by
  refine ⟨toJson_ofJson_iff, ofJson_toJson_iff, fun n x => ?_⟩
  cases x <;> simp [toJson]

end Value
end StageGate
