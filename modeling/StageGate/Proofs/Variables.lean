import StageGate.Proofs.Text.Blank
import StageGate.Variables

/-! Paths into the variables, one name after another: where that is the same as looking up the whole
path, and what `Count` does to it. -/
namespace StageGate

namespace Text

theorem trimChars_toList {s : String} (h : trim s = s) : trimChars s.toList = s.toList := by
  simpa [trim] using congrArg String.toList h

theorem toList_dotted (s t : String) : (s ++ "." ++ t).toList = s.toList ++ '.' :: t.toList := by
  simp

theorem trimChars_dotted {s t : String} (hs : trim s = s) (hne : s ≠ "") (ht : trim t = t) :
    trimChars (s ++ "." ++ t).toList = s.toList ++ '.' :: t.toList := by
  rw [toList_dotted]
  apply trimChars_join (trimChars_toList hs) _ (by decide) (trimChars_toList ht)
  simpa using hne

theorem trim_dotted {s t : String} (hs : trim s = s) (hne : s ≠ "") (ht : trim t = t) :
    trim (s ++ "." ++ t) = s ++ "." ++ t := by
  rw [trim, trimChars_dotted hs hne ht, ← toList_dotted, String.ofList_toList]

end Text

namespace Value

/-- One step along a path: the field of a record, the length of a list or the item at a place in
it. A step that leads nowhere gives null. -/
def step (v : Value) (name : String) : Value :=
  match v with
  | record fields => (Fields.find? fields name).getD null
  | list items =>
    if name = "Count" then int (Int64.ofNat items.length)
    else ((Text.index? name.toList).bind (items[·]?)).getD null
  | _ => null

/-- Somewhere on the way, the length of a list is asked for. -/
def Counts (v : Value) (names : List String) : Prop :=
  ∃ front rest items, names = front ++ "Count" :: rest ∧ v.follow front = list items

variable {v : Value} {name : String} {names more : List String} {items : List Value}

theorem follow_null (names : List String) : null.follow names = null := by
  cases names <;> rfl

theorem follow_count (items : List Value) (rest : List String) :
    (list items).follow ("Count" :: rest) = int (Int64.ofNat items.length) := by
  simp [follow]

theorem follow_cons (h : ∀ items, v = list items → name ≠ "Count") (rest : List String) :
    v.follow (name :: rest) = (v.step name).follow rest := by
  cases v with
  | record fields =>
    simp only [follow, step]
    cases Fields.find? fields name with
    | some v => rfl
    | none => exact (follow_null rest).symm
  | list items =>
    simp only [follow, step, h items rfl, if_false]
    cases (Text.index? name.toList).bind (items[·]?) with
    | some v => rfl
    | none => exact (follow_null rest).symm
  | _ => exact (follow_null rest).symm

/-- The one step that ends a way at once. -/
theorem eq_count_or_follow_cons (v : Value) (name : String) :
    (∃ items, v = list items ∧ name = "Count") ∨
      ∀ rest, v.follow (name :: rest) = (v.step name).follow rest := by
  by_cases h : ∃ items, v = list items ∧ name = "Count"
  · exact Or.inl h
  · refine Or.inr (follow_cons fun items hv hname => ?_)
    exact h ⟨items, hv, hname⟩

theorem follow_append_of_list (h : v.follow names = list items) (more : List String) :
    v.follow (names ++ more) = (list items).follow more := by
  induction names generalizing v with
  | nil => rw [← h]; rfl
  | cons name names ih =>
    rcases eq_count_or_follow_cons v name with ⟨found, rfl, rfl⟩ | hcons
    · rw [follow_count] at h
      cases h
    · rw [hcons] at h
      rw [List.cons_append, hcons]
      exact ih h

theorem follow_of_counts (h : v.Counts names) (more : List String) :
    v.follow (names ++ more) = v.follow names ∧
      ∃ items : List Value, v.follow names = int (Int64.ofNat items.length) := by
  obtain ⟨front, rest, items, rfl, hfront⟩ := h
  have hends : ∀ tail, v.follow (front ++ "Count" :: tail) = int (Int64.ofNat items.length) := by
    intro tail
    rw [follow_append_of_list hfront, follow_count]
  refine ⟨?_, items, hends rest⟩
  rw [List.append_assoc, List.cons_append, hends, hends]

/-- A way on which no length is asked for can be gone in parts. -/
theorem follow_append (h : ¬ v.Counts names) (more : List String) :
    v.follow (names ++ more) = (v.follow names).follow more := by
  induction names generalizing v with
  | nil => rfl
  | cons name names ih =>
    rcases eq_count_or_follow_cons v name with ⟨items, rfl, rfl⟩ | hcons
    · exact (h ⟨[], names, items, rfl, rfl⟩).elim
    · rw [List.cons_append, hcons, hcons]
      apply ih
      rintro ⟨front, rest, items, rfl, hfront⟩
      exact h ⟨name :: front, rest, items, rfl, by rw [hcons, hfront]⟩

theorem follow_singleton (v : Value) (name : String) : v.follow [name] = v.step name := by
  rcases eq_count_or_follow_cons v name with ⟨items, rfl, rfl⟩ | hcons
  · rw [follow_count]
    rfl
  · rw [hcons]
    rfl

end Value

namespace Variables

/-- Variables as runs come by them: from the initial ones by setting some and taking signals. -/
inductive Arises : Variables → Prop
  | initial : Arises initial
  | set {vars vars' : Variables} {name : String} {v : Value} (h : Arises vars)
    (hset : vars.set name v = .ok vars') : Arises vars'
  | takeSignal {vars : Variables} (h : Arises vars) (signal : String) :
    Arises (vars.takeSignal signal).2

/-- Somewhere on its way, the path asks for the length of a list. -/
def Counts (vars : Variables) (path : String) : Prop :=
  ∃ front rest items, pathNames path = front ++ "Count" :: rest ∧ vars.follow front = .list items

/-- The path that goes on from there with these names. -/
def longerPath (path : String) (names : List String) : String :=
  names.foldl (fun path name => path ++ "." ++ name) path

variable {vars vars' : Variables} {path name : String} {v : Value}

theorem set_eq_ok_iff :
    vars.set name v = .ok vars' ↔ Text.isBlank name = false ∧ vars' = vars.put name v := by
  unfold set
  cases Text.isBlank name with
  | true => simp
  | false => simp [eq_comm]

/-- No variable has a blank name. -/
theorem Arises.find?_blank (h : vars.Arises) (hblank : Text.isBlank name = true) :
    vars.find? name = none := by
  induction h with
  | initial =>
    have hne : ∀ other, Text.isBlank other = false → other ≠ name := by
      rintro other hother rfl
      rw [hblank] at hother
      cases hother
    have hstatus := hne statusName (by decide)
    have hreason := hne reasonName (by decide)
    have hbreak := hne breakName (by decide)
    have hcontinue := hne continueName (by decide)
    simp [find?, Variables.initial, Fields.ofList, Fields.find?_insert, Fields.find?, hstatus,
      hreason, hbreak, hcontinue]
  | @set vars vars' other v h hset ih =>
    obtain ⟨hother, rfl⟩ := set_eq_ok_iff.mp hset
    have hne : other ≠ name := by
      rintro rfl
      rw [hblank] at hother
      cases hother
    rw [find?_put, if_neg hne]
    exact ih
  | @takeSignal vars h signal ih =>
    rw [find?_takeSignal, if_neg, ih]
    rintro ⟨hraised, rfl⟩
    simp [isRaised, ih] at hraised

/-- The characters behind a leading `@`. -/
def dropAt (cs : List Char) : List Char :=
  if cs.head? = some '@' then cs.drop 1 else cs

theorem dropAt_append {cs : List Char} (h : cs ≠ []) (rest : List Char) :
    dropAt (cs ++ rest) = dropAt cs ++ rest := by
  obtain ⟨c, cs, rfl⟩ := List.exists_cons_of_ne_nil h
  unfold dropAt
  split <;> rename_i hat
  · rw [if_pos (by simpa using hat)]
    rfl
  · rw [if_neg (by simpa using hat)]

theorem pathNames_eq {cs : List Char} (h : Text.trimChars path.toList = cs) :
    pathNames path =
      if dropAt cs = [] then [] else (Text.splitChars '.' (dropAt cs)).map String.ofList := by
  subst h
  unfold pathNames dropAt
  by_cases hat : (Text.trimChars path.toList).head? = some '@' <;> simp [hat]

/-- One more name joins at the end; a path of nothing but an `@` gets an empty name before it. -/
theorem pathNames_dotted (hpath : path ≠ "") (htrim : Text.trim path = path)
    (hname : Text.trim name = name) (hdot : '.' ∉ name.toList) :
    (∃ root rest, pathNames path = root :: rest ∧
        pathNames (path ++ "." ++ name) = root :: (rest ++ [name])) ∨
      pathNames path = [] ∧ pathNames (path ++ "." ++ name) = ["", name] := by
  have hne : path.toList ≠ [] := by simpa using hpath
  have hnames := pathNames_eq (Text.trimChars_toList htrim)
  have hnames' := pathNames_eq (Text.trimChars_dotted htrim hpath hname)
  rw [dropAt_append hne, if_neg (by simp), Text.splitChars_append, Text.splitChars_whole hdot,
    List.map_append, List.map_cons, String.ofList_toList, List.map_nil] at hnames'
  by_cases hat : dropAt path.toList = []
  · rw [if_pos hat] at hnames
    rw [hat] at hnames'
    exact Or.inr ⟨hnames, hnames'⟩
  · rw [if_neg hat] at hnames
    left
    obtain ⟨root, rest, hsplit⟩ :=
      List.exists_cons_of_ne_nil (Text.splitChars_ne_nil '.' (dropAt path.toList))
    rw [hsplit, List.map_cons] at hnames
    rw [hsplit, List.map_cons] at hnames'
    exact ⟨_, _, hnames, hnames'⟩

theorem follow_cons (vars : Variables) (root : String) (rest : List String) :
    vars.follow (root :: rest) = ((vars.find? root).getD .null).follow rest := by
  simp only [follow]
  cases vars.find? root with
  | some v => rfl
  | none => exact (Value.follow_null rest).symm

theorem counts_iff {root : String} {rest : List String} (h : pathNames path = root :: rest) :
    vars.Counts path ↔ ((vars.find? root).getD .null).Counts rest := by
  constructor
  · rintro ⟨front, rest', items, hnames, hfront⟩
    rw [h] at hnames
    cases front with
    | nil => cases hfront
    | cons root' front =>
      obtain ⟨rfl, rfl⟩ := List.cons.inj hnames
      rw [follow_cons] at hfront
      exact ⟨front, rest', items, rfl, hfront⟩
  · rintro ⟨front, rest', items, rfl, hfront⟩
    refine ⟨root :: front, rest', items, h, ?_⟩
    rw [follow_cons, hfront]

section Segments

variable (hpath : path ≠ "") (htrim : Text.trim path = path) (hname : Text.trim name = name)
  (hdot : '.' ∉ name.toList)

include hpath htrim hname hdot

/-- Once a path has asked for the length of a list, it keeps to that. -/
theorem resolve_of_counts (hcounts : vars.Counts path) :
    vars.resolve (path ++ "." ++ name) = vars.resolve path ∧
      ∃ items : List Value, vars.resolve path = .int (Int64.ofNat items.length) := by
  unfold resolve
  rcases pathNames_dotted hpath htrim hname hdot with ⟨root, rest, hnames, hnames'⟩ | ⟨hnames, -⟩
  · rw [counts_iff hnames] at hcounts
    rw [hnames, hnames', follow_cons, follow_cons]
    exact Value.follow_of_counts hcounts [name]
  · obtain ⟨front, rest, items, hfront, -⟩ := hcounts
    rw [hnames] at hfront
    simp at hfront

variable (hvars : vars.Arises)

include hvars

theorem resolve_dotted (hcounts : ¬ vars.Counts path) :
    vars.resolve (path ++ "." ++ name) = (vars.resolve path).step name := by
  unfold resolve
  rcases pathNames_dotted hpath htrim hname hdot with
    ⟨root, rest, hnames, hnames'⟩ | ⟨hnames, hnames'⟩
  · rw [counts_iff hnames] at hcounts
    rw [hnames, hnames', follow_cons, follow_cons, Value.follow_append hcounts,
      Value.follow_singleton]
  · have hroot : vars.find? "" = none := hvars.find?_blank (by decide)
    rw [hnames, hnames', follow_cons, hroot]
    rfl

/-- What leads nowhere does not lead anywhere by going on. -/
theorem resolve_dotted_null (hnull : vars.resolve path = .null) :
    vars.resolve (path ++ "." ++ name) = .null := by
  by_cases hcounts : vars.Counts path
  · have hsame := (resolve_of_counts hpath htrim hname hdot hcounts).1
    rw [hsame, hnull]
  · rw [resolve_dotted hpath htrim hname hdot hvars hcounts, hnull]
    rfl

end Segments

theorem resolve_longerPath_null (hvars : vars.Arises) {names : List String}
    (hnames : ∀ name ∈ names, Text.trim name = name ∧ '.' ∉ name.toList) (hpath : path ≠ "")
    (htrim : Text.trim path = path) (hnull : vars.resolve path = .null) :
    vars.resolve (longerPath path names) = .null := by
  induction names generalizing path with
  | nil => exact hnull
  | cons name names ih =>
    obtain ⟨⟨hname, hdot⟩, hnames⟩ := List.forall_mem_cons.mp hnames
    apply ih hnames
    · simp
    · exact Text.trim_dotted htrim hpath hname
    · exact resolve_dotted_null hpath htrim hname hdot hvars hnull

/-- A path is looked up name by name, each one a step from what the names before it lead to, unless
the path has asked for the length of a list: that length stays, whatever else follows. In any case
what leads nowhere stays null. -/
theorem resolve_segment (hvars : vars.Arises) (hpath : path ≠ "") (htrim : Text.trim path = path)
    (hname : Text.trim name = name) (hdot : '.' ∉ name.toList) :
    (vars.resolve (path ++ "." ++ name) = (vars.resolve path).step name ↔ ¬ vars.Counts path) ∧
      (vars.Counts path → vars.resolve (path ++ "." ++ name) = vars.resolve path ∧
        ∃ items : List Value, vars.resolve path = .int (Int64.ofNat items.length)) ∧
      (vars.resolve path = .null → ∀ names : List String,
        (∀ more ∈ names, Text.trim more = more ∧ '.' ∉ more.toList) →
          vars.resolve (longerPath path names) = .null) := by
  have hlength : vars.Counts path → vars.resolve (path ++ "." ++ name) = vars.resolve path ∧
      ∃ items : List Value, vars.resolve path = .int (Int64.ofNat items.length) :=
    resolve_of_counts hpath htrim hname hdot
  refine ⟨⟨fun hstep hcounts => ?_, resolve_dotted hpath htrim hname hdot hvars⟩, hlength, ?_⟩
  · obtain ⟨hsame, items, hitems⟩ := hlength hcounts
    rw [hsame, hitems] at hstep
    cases hstep
  · intro hnull names hnames
    exact resolve_longerPath_null hvars hnames hpath htrim hnull

/-- Two rows; the first is a record with a field of the name `Count`. -/
def twoRows : Variables :=
  initial.put "rows" (.list [.record [("Count", .int 7)], .int 8])

theorem twoRows_arises : twoRows.Arises :=
  .set .initial (set_eq_ok_iff.mpr ⟨by decide, rfl⟩)

theorem resolve_segment_twoRows :
    twoRows.resolve "@rows.0.Count" = (twoRows.resolve "@rows.0").step "Count" ∧
      twoRows.resolve "@rows.0.Count" = .int 7 ∧
      twoRows.resolve "rows.Count.0" = twoRows.resolve "rows.Count" := by
  have hfield : ¬ twoRows.Counts "@rows.0" := by
    rintro ⟨front, rest, items, hnames, -⟩
    have hmem : "Count" ∈ pathNames "@rows.0" := by simp [hnames]
    exact absurd hmem (by decide)
  have hlength : twoRows.Counts "rows.Count" := ⟨["rows"], [], _, rfl, rfl⟩
  have hstep := resolve_segment twoRows_arises (show "@rows.0" ≠ "" by decide) (by decide)
    (show Text.trim "Count" = "Count" by decide) (by decide)
  have hstays := resolve_segment twoRows_arises (show "rows.Count" ≠ "" by decide) (by decide)
    (show Text.trim "0" = "0" by decide) (by decide)
  exact ⟨hstep.1.mpr hfield, rfl, (hstays.2.1 hlength).1⟩

/-- A step from the length of a list leads nowhere, and yet the path with that step gives the
length. -/
theorem twoRows_count_stays :
    twoRows.Arises ∧ Text.trim "rows.Count" = "rows.Count" ∧ '.' ∉ "x".toList ∧
      twoRows.resolve ("rows.Count" ++ "." ++ "x") = .int 2 ∧
      (twoRows.resolve "rows.Count").step "x" = .null :=
  ⟨twoRows_arises, by decide, by decide, rfl, rfl⟩

end Variables
end StageGate
