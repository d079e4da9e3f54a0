import Mathlib.Data.List.Induction
import Mathlib.Data.List.TakeWhile
import StageGate.Run.Message

/-! Messages as texts and references in turn, and what is written in place of the references. -/
namespace StageGate.Message

variable {vars vars' : Variables} {a b cs ref front back : List Char} {c : Char}

/-- A reference stands between `front` and `back`: an `@` and all path characters behind it, at
least one. -/
structure ReferenceAt (cs front ref back : List Char) : Prop where
  split : cs = front ++ '@' :: (ref ++ back)
  nonempty : ref ≠ []
  path : ∀ c ∈ ref, isPathChar c = true
  all : ∀ c, back.head? = some c → isPathChar c = false

def NoReference (cs : List Char) : Prop :=
  ∀ front ref back, ¬ ReferenceAt cs front ref back

/-- No reference begins in `a` and ends in `b`. -/
def Seam (a b : List Char) : Prop :=
  ∀ front ref back, ReferenceAt (a ++ b) front ref back →
    front.length + 1 + ref.length ≤ a.length ∨ a.length ≤ front.length

theorem ReferenceAt.append_left (h : ReferenceAt cs front ref back) (more : List Char) :
    ReferenceAt (more ++ cs) (more ++ front) ref back :=
  ⟨by rw [h.split, List.append_assoc], h.nonempty, h.path, h.all⟩

theorem ReferenceAt.append_right (h : ReferenceAt cs front ref back)
    (hnext : back = [] → ∀ c, b.head? = some c → isPathChar c = false) :
    ReferenceAt (cs ++ b) front ref (back ++ b) := by
  refine ⟨by simp [h.split], h.nonempty, h.path, fun c hc => ?_⟩
  cases back with
  | nil => exact hnext rfl c hc
  | cons d back => exact h.all c hc

theorem NoReference.of_append_left (h : NoReference (a ++ cs)) : NoReference cs :=
  fun _ _ _ hat => h _ _ _ (hat.append_left a)

theorem Seam.of_append_left {more : List Char} (h : Seam (more ++ a) b) : Seam a b := by
  intro front ref back hat
  rw [Seam, List.append_assoc] at h
  have hends := h _ _ _ (hat.append_left more)
  simp only [List.length_append] at hends
  omega

theorem not_path_of_dropWhile (cs : List Char) :
    ∀ c, (cs.dropWhile isPathChar).head? = some c → isPathChar c = false := by
  intro c hc
  have hhead := List.head?_dropWhile_not isPathChar cs
  rw [hc] at hhead
  exact hhead

/-- The reference that an `@` begins with the path characters behind it. -/
theorem referenceAt_takeWhile (h : cs.takeWhile isPathChar ≠ []) :
    ReferenceAt ('@' :: cs) [] (cs.takeWhile isPathChar) (cs.dropWhile isPathChar) :=
  ⟨by rw [List.takeWhile_append_dropWhile, List.nil_append], h,
    fun _ hmem => List.mem_takeWhile_imp hmem, not_path_of_dropWhile cs⟩

/-- Where a text ends inside of a reference, or in an `@`, the other one goes on with something
else. -/
theorem Seam.not_path (h : Seam ('@' :: ref) b) (hpath : ∀ c ∈ ref, isPathChar c = true) :
    ∀ c, b.head? = some c → isPathChar c = false := by
  intro c hc
  by_contra hgoes
  rw [Bool.not_eq_false] at hgoes
  obtain ⟨rest, rfl⟩ := List.head?_eq_some_iff.mp hc
  have htake : (ref ++ c :: rest).takeWhile isPathChar =
      ref ++ c :: rest.takeWhile isPathChar := by
    rw [List.takeWhile_append_of_pos hpath, List.takeWhile_cons_of_pos hgoes]
  have hne : (ref ++ c :: rest).takeWhile isPathChar ≠ [] := by simp [htake]
  have href := referenceAt_takeWhile hne
  rw [htake] at href
  have hends := h _ _ _ href
  simp only [List.length_append, List.length_cons, List.length_nil] at hends
  omega

theorem seam_of_not_path (h : ∀ c, b.head? = some c → isPathChar c = false) : Seam a b := by
  rintro front ref back ⟨hsplit, -, hpath, -⟩
  rcases List.append_eq_append_iff.mp hsplit with ⟨more, rfl, -⟩ | ⟨more, rfl, hmore⟩
  · right
    simp
  · cases more with
    | nil =>
      right
      simp
    | cons first more =>
      rw [List.cons_append, List.cons.injEq] at hmore
      obtain ⟨-, hmore⟩ := hmore
      left
      rcases List.append_eq_append_iff.mp hmore with ⟨rest, rfl, -⟩ | ⟨rest, rfl, hrest⟩
      · simp only [List.length_append, List.length_cons]
        omega
      · cases rest with
        | nil =>
          simp only [List.length_append, List.length_cons, List.append_nil]
          omega
        | cons c rest =>
          have hplain := h c (by simp [hrest])
          have hin := hpath c (by simp)
          rw [hplain] at hin
          cases hin

theorem pieces_reference (h : ReferenceAt cs [] ref back) :
    pieces cs = .reference ref :: pieces back := by
  obtain ⟨rfl, hne, hpath, hall⟩ := h
  have hback : back.takeWhile isPathChar = [] ∧ back.dropWhile isPathChar = back := by
    cases back with
    | nil => exact ⟨rfl, rfl⟩
    | cons c back => simp [hall c rfl]
  have htake : (ref ++ back).takeWhile isPathChar = ref := by
    rw [List.takeWhile_append_of_pos hpath, hback.1, List.append_nil]
  have hdrop : (ref ++ back).dropWhile isPathChar = back := by
    rw [List.dropWhile_append_of_pos hpath, hback.2]
  rw [List.nil_append, pieces, htake, hdrop, if_pos ⟨rfl, hne⟩]

theorem pieces_char (h : c = '@' → ∀ d, cs.head? = some d → isPathChar d = false) :
    pieces (c :: cs) = .char c :: pieces cs := by
  rw [pieces, if_neg]
  rintro ⟨hat, hne⟩
  cases cs with
  | nil => exact hne rfl
  | cons d cs =>
    rw [List.takeWhile_cons, h hat d rfl] at hne
    exact hne rfl

theorem not_path_of_no_reference (h : ¬ (c = '@' ∧ cs.takeWhile isPathChar ≠ [])) :
    c = '@' → ∀ d, cs.head? = some d → isPathChar d = false := by
  rintro rfl d hd
  obtain ⟨rest, rfl⟩ := List.head?_eq_some_iff.mp hd
  by_contra hpath
  refine h ⟨rfl, ?_⟩
  rw [List.takeWhile_cons_of_pos (by simpa using hpath)]
  exact List.cons_ne_nil _ _

theorem pieces_append (h : Seam a b) : pieces (a ++ b) = pieces a ++ pieces b := by
  induction a using pieces.induct with
  | case1 => simp [pieces]
  | case2 c cs hat ih =>
    obtain ⟨rfl, hne⟩ := hat
    have href := referenceAt_takeWhile hne
    have hcs : cs.takeWhile isPathChar ++ cs.dropWhile isPathChar = cs :=
      List.takeWhile_append_dropWhile
    have hrest : Seam (cs.dropWhile isPathChar) b := by
      rw [← hcs, ← List.cons_append] at h
      exact h.of_append_left
    have hlong := href.append_right (b := b) fun hnil => by
      rw [hnil, List.append_nil] at hcs
      rw [← hcs] at h
      exact h.not_path href.path
    rw [pieces_reference hlong, pieces_reference href, ih hrest, List.cons_append]
  | case3 c cs hat ih =>
    have hhead := not_path_of_no_reference hat
    have hlong : c = '@' → ∀ d, (cs ++ b).head? = some d → isPathChar d = false := by
      rintro rfl d hd
      cases cs with
      | nil => exact h.not_path (List.forall_mem_nil _) d hd
      | cons first cs => exact hhead rfl d hd
    have hrest : Seam cs b := by
      rw [← List.singleton_append] at h
      exact h.of_append_left
    rw [List.cons_append, pieces_char hlong, pieces_char hhead, ih hrest, List.cons_append]

/-- A text without a reference stands for itself. -/
theorem pieces_text (h : NoReference cs) : pieces cs = cs.map .char := by
  induction cs using pieces.induct with
  | case1 => simp [pieces]
  | case2 c cs hat _ =>
    obtain ⟨rfl, hne⟩ := hat
    exact (h _ _ _ (referenceAt_takeWhile hne)).elim
  | case3 c cs hat ih =>
    have hrest : NoReference cs := NoReference.of_append_left (a := [c]) h
    rw [pieces_char (not_path_of_no_reference hat), ih hrest, List.map_cons]

/-- A reference, its dots at the end counted apart, and the text behind it. -/
structure Reference where
  path : List Char
  dots : Nat
  behind : List Char

namespace Reference

def spelled (r : Reference) : List Char :=
  r.path ++ List.replicate r.dots '.'

def source (r : Reference) : List Char :=
  '@' :: (r.spelled ++ r.behind)

def pieces (r : Reference) : List Piece :=
  .reference r.spelled :: r.behind.map .char

/-- The reference is as long as it can be, and the text behind it holds none. -/
structure Proper (r : Reference) : Prop where
  nonempty : r.spelled ≠ []
  spelled : ∀ c ∈ r.spelled, isPathChar c = true
  path : r.path.getLast? ≠ some '.'
  all : ∀ c, r.behind.head? = some c → isPathChar c = false
  behind : NoReference r.behind

end Reference

/-- Texts and references in turn. -/
structure Layout where
  lead : List Char
  references : List Reference

namespace Layout

def source (l : Layout) : List Char :=
  l.lead ++ l.references.flatMap Reference.source

def pieces (l : Layout) : List Piece :=
  l.lead.map .char ++ l.references.flatMap Reference.pieces

structure Proper (l : Layout) : Prop where
  lead : NoReference l.lead
  references : ∀ r ∈ l.references, r.Proper

end Layout

theorem not_path_source (rs : List Reference) :
    ∀ c, (rs.flatMap Reference.source).head? = some c → isPathChar c = false := by
  intro c hc
  cases rs with
  | nil => cases hc
  | cons r rs =>
    obtain rfl : '@' = c := by simpa [Reference.source] using hc
    decide

theorem pieces_references {rs : List Reference} (h : ∀ r ∈ rs, r.Proper) :
    pieces (rs.flatMap Reference.source) = rs.flatMap Reference.pieces := by
  induction rs with
  | nil => simp [pieces]
  | cons r rs ih =>
    obtain ⟨hr, hrs⟩ := List.forall_mem_cons.mp h
    have href : ReferenceAt r.source [] r.spelled r.behind :=
      ⟨rfl, hr.nonempty, hr.spelled, hr.all⟩
    have hnext := not_path_source rs
    rw [List.flatMap_cons, List.flatMap_cons,
      pieces_reference (href.append_right fun _ => hnext), pieces_append (seam_of_not_path hnext),
      pieces_text hr.behind, ih hrs, Reference.pieces, List.cons_append]

theorem Layout.pieces_source {l : Layout} (h : l.Proper) : Message.pieces l.source = l.pieces := by
  rw [source, pieces_append (seam_of_not_path (not_path_source _)), pieces_text h.lead,
    pieces_references h.references, pieces]

theorem exists_spelled (ref : List Char) :
    ∃ path dots, ref = path ++ List.replicate dots '.' ∧ path.getLast? ≠ some '.' := by
  induction ref using List.reverseRecOn with
  | nil => exact ⟨[], 0, rfl, nofun⟩
  | append_singleton ref c ih =>
    by_cases hc : c = '.'
    · obtain ⟨path, dots, rfl, hpath⟩ := ih
      refine ⟨path, dots + 1, ?_, hpath⟩
      rw [hc, List.append_assoc, List.replicate_succ']
    · exact ⟨ref ++ [c], 0, by simp, by simpa using hc⟩

theorem splitDots_spelled {path : List Char} (h : path.getLast? ≠ some '.') (dots : Nat) :
    splitDots (path ++ List.replicate dots '.') = (path, List.replicate dots '.') := by
  have hpath : path.reverse.takeWhile (· == '.') = [] := by
    cases hreverse : path.reverse with
    | nil => rfl
    | cons c cs =>
      have hlast : path.getLast? = some c := by rw [← List.head?_reverse, hreverse, List.head?_cons]
      have hc : c ≠ '.' := fun heq => h (heq ▸ hlast)
      simp [hc]
  have hdots : (path ++ List.replicate dots '.').reverse.takeWhile (· == '.') =
      List.replicate dots '.' := by
    rw [List.reverse_append, List.reverse_replicate, List.takeWhile_append_of_pos, hpath,
      List.append_nil]
    intro c hc
    rw [List.eq_of_mem_replicate hc]
    rfl
  simp only [splitDots, hdots]
  simp

theorem noReference_nil : NoReference [] := by
  intro front ref back hat
  have hsplit := hat.split
  simp at hsplit

theorem NoReference.cons (h : NoReference cs)
    (hc : c = '@' → ∀ d, cs.head? = some d → isPathChar d = false) : NoReference (c :: cs) := by
  rintro front ref back ⟨hsplit, hne, hpath, hall⟩
  cases front with
  | nil =>
    obtain ⟨rfl, rfl⟩ := List.cons.inj hsplit
    obtain ⟨d, ref, rfl⟩ := List.exists_cons_of_ne_nil hne
    have hin := hpath d List.mem_cons_self
    rw [hc rfl d rfl] at hin
    cases hin
  | cons first front =>
    obtain ⟨rfl, rfl⟩ := List.cons.inj hsplit
    exact h front ref back ⟨rfl, hne, hpath, hall⟩

theorem Layout.head?_source {l : Layout} (h : l.lead.head? = some c) : l.source.head? = some c := by
  obtain ⟨rest, hlead⟩ := List.head?_eq_some_iff.mp h
  rw [source, hlead]
  rfl

/-- Every message has a layout. -/
theorem exists_layout (cs : List Char) : ∃ l : Layout, l.Proper ∧ l.source = cs := by
  induction cs using pieces.induct with
  | case1 => exact ⟨⟨[], []⟩, ⟨noReference_nil, List.forall_mem_nil _⟩, rfl⟩
  | case2 c cs hat ih =>
    obtain ⟨rfl, hne⟩ := hat
    obtain ⟨l, hl, hsource⟩ := ih
    have href := referenceAt_takeWhile hne
    have hcs : cs.takeWhile isPathChar ++ cs.dropWhile isPathChar = cs :=
      List.takeWhile_append_dropWhile
    obtain ⟨path, dots, hspelled, hpath⟩ := exists_spelled (cs.takeWhile isPathChar)
    rw [hspelled] at href hcs
    let r : Reference := ⟨path, dots, l.lead⟩
    have hall : ∀ d, r.behind.head? = some d → isPathChar d = false := fun d hd =>
      href.all d (hsource ▸ Layout.head?_source hd)
    have hr : r.Proper := ⟨href.nonempty, href.path, hpath, hall, hl.lead⟩
    refine ⟨⟨[], r :: l.references⟩, ⟨noReference_nil, ?_⟩, ?_⟩
    · exact List.forall_mem_cons.mpr ⟨hr, hl.references⟩
    · rw [← hcs, ← hsource]
      simp [Layout.source, Reference.source, Reference.spelled, r]
  | case3 c cs hat ih =>
    obtain ⟨l, hl, rfl⟩ := ih
    refine ⟨{ l with lead := c :: l.lead }, ⟨hl.lead.cons fun hc d hd => ?_, hl.references⟩, rfl⟩
    exact not_path_of_no_reference hat hc d (Layout.head?_source hd)

namespace Layout

/-- The layout that the pieces come from. -/
def ofPieces : List Piece → Layout
  | [] => ⟨[], []⟩
  | .char c :: ps => { ofPieces ps with lead := c :: (ofPieces ps).lead }
  | .reference ref :: ps =>
    ⟨[], ⟨(splitDots ref).1, (splitDots ref).2.length, (ofPieces ps).lead⟩ ::
      (ofPieces ps).references⟩

theorem ofPieces_text (cs : List Char) (ps : List Piece) :
    ofPieces (cs.map .char ++ ps) = { ofPieces ps with lead := cs ++ (ofPieces ps).lead } := by
  induction cs with
  | nil => rfl
  | cons c cs ih => rw [List.map_cons, List.cons_append, ofPieces, ih, List.cons_append]

theorem ofPieces_references {rs : List Reference} (h : ∀ r ∈ rs, r.Proper) :
    ofPieces (rs.flatMap Reference.pieces) = ⟨[], rs⟩ := by
  induction rs with
  | nil => rfl
  | cons r rs ih =>
    obtain ⟨hr, hrs⟩ := List.forall_mem_cons.mp h
    rw [List.flatMap_cons, Reference.pieces, List.cons_append, ofPieces, ofPieces_text, ih hrs,
      Reference.spelled, splitDots_spelled hr.path]
    simp

theorem ofPieces_pieces {l : Layout} (h : l.Proper) : ofPieces l.pieces = l := by
  rw [pieces, ofPieces_text, ofPieces_references h.references, List.append_nil]

/-- A message has one layout only. -/
theorem unique {l l' : Layout} (h : l.Proper) (h' : l'.Proper) (hsource : l.source = l'.source) :
    l = l' := by
  rw [← ofPieces_pieces h, ← pieces_source h, hsource, pieces_source h', ofPieces_pieces h']

end Layout

/-- The string form of what the path leads to. -/
def shown (vars : Variables) (path : List Char) : List Char :=
  match vars.resolve (String.ofList path) with
  | .null => "null".toList
  | v => v.toText.toList

/-- The string form of what the path leads to, the dots behind the path and the text. -/
def Reference.filled (vars : Variables) (r : Reference) : List Char :=
  shown vars r.path ++ (List.replicate r.dots '.' ++ r.behind)

/-- Only references are replaced. -/
def Layout.filled (vars : Variables) (l : Layout) : List Char :=
  l.lead ++ l.references.flatMap (Reference.filled vars)

theorem referenceText_spelled {r : Reference} (h : r.path.getLast? ≠ some '.') :
    referenceText vars r.spelled = shown vars r.path ++ List.replicate r.dots '.' := by
  simp only [referenceText, Reference.spelled, splitDots_spelled h, shown]
  cases vars.resolve (String.ofList r.path) <;> rfl

theorem flatMap_char (cs : List Char) : (cs.map .char).flatMap (Piece.text vars) = cs := by
  induction cs with
  | nil => rfl
  | cons c cs ih => rw [List.map_cons, List.flatMap_cons, ih, Piece.text, List.singleton_append]

theorem flatMap_references {rs : List Reference} (h : ∀ r ∈ rs, r.Proper) :
    (rs.flatMap Reference.pieces).flatMap (Piece.text vars) =
      rs.flatMap (Reference.filled vars) := by
  induction rs with
  | nil => rfl
  | cons r rs ih =>
    obtain ⟨hr, hrs⟩ := List.forall_mem_cons.mp h
    rw [List.flatMap_cons, List.flatMap_append, ih hrs, List.flatMap_cons, Reference.pieces,
      List.flatMap_cons, flatMap_char, Piece.text, referenceText_spelled hr.path, Reference.filled]
    simp only [List.append_assoc]

/-- A message is rendered along its layout. -/
theorem render_layout {l : Layout} (h : l.Proper) {message : String}
    (hsource : l.source = message.toList) (vars : Variables) :
    render vars message = String.ofList (l.filled vars) := by
  rw [render, ← hsource, Layout.pieces_source h, Layout.pieces, List.flatMap_append, flatMap_char,
    flatMap_references h.references, Layout.filled]

theorem filled_congr {l : Layout} (h : ∀ r ∈ l.references, shown vars r.path = shown vars' r.path) :
    l.filled vars = l.filled vars' := by
  have hfilled : ∀ r ∈ l.references, r.filled vars = r.filled vars' := by
    intro r hr
    rw [Reference.filled, Reference.filled, h r hr]
  rw [Layout.filled, Layout.filled, List.flatMap_def, List.flatMap_def,
    List.map_congr_left hfilled]

theorem render_append {a b : String} (h : Seam a.toList b.toList) (vars : Variables) :
    render vars (a ++ b) = render vars a ++ render vars b := by
  rw [render, String.toList_append, pieces_append h, List.flatMap_append, String.ofList_append]
  rfl

theorem render_text {message : String} (h : NoReference message.toList) (vars : Variables) :
    render vars message = message := by
  rw [render, pieces_text h, flatMap_char, String.ofList_toList]

/-- A message has one layout, that is, one way to read it as texts and references in turn. Rendering
keeps the texts and replaces each reference by the text of what its path leads to. It reads nothing
of what it writes there: what else the variables hold makes no difference. So a message without a
reference stays as it is, and two messages may be rendered apart where no reference begins in the
first and ends in the second. -/
theorem render_fills (message : String) :
    (∃! l : Layout, l.Proper ∧ l.source = message.toList) ∧
    (∀ l : Layout, l.Proper → l.source = message.toList → ∀ vars,
      render vars message = String.ofList (l.filled vars) ∧
      ∀ vars' : Variables, (∀ r ∈ l.references, shown vars r.path = shown vars' r.path) →
        render vars message = render vars' message) ∧
    (NoReference message.toList → ∀ vars, render vars message = message) ∧
    ∀ a b : String, message = a ++ b → Seam a.toList b.toList → ∀ vars,
      render vars message = render vars a ++ render vars b := by
  refine ⟨?_, fun l hl hsource vars => ⟨render_layout hl hsource vars, fun vars' hsame => ?_⟩,
    render_text, ?_⟩
  · obtain ⟨l, hl, hsource⟩ := exists_layout message.toList
    refine ⟨l, ⟨hl, hsource⟩, fun other hother => ?_⟩
    exact Layout.unique hother.1 hl (hother.2.trans hsource.symm)
  · rw [render_layout hl hsource, render_layout hl hsource, filled_congr hsame]
  · rintro a b rfl hseam vars
    exact render_append hseam vars

end StageGate.Message
