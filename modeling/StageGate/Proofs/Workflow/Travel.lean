import StageGate.Proofs.Run.Compare
import StageGate.Workflow

/-! The way of one subject: it does not depend on the diary it is written down in, and nothing but
the state changes on it. -/
namespace StageGate

open Effect

/-- The same run, written down behind one journal and behind another. -/
def Session.Parallel (before before' : Journal) (s t : Session) : Prop :=
  s.vars = t.vars ∧ s.events = t.events ∧
    ∃ lines, s.journal = before ++ lines ∧ t.journal = before' ++ lines

theorem Session.parallel_push {before before' : Journal} {s t : Session} (event : Event)
    (h : Session.Parallel before before' s t) :
    Session.Parallel before before' (s.push event) (t.push event) := by
  obtain ⟨hvars, hevents, hlines⟩ := h
  exact ⟨hvars, by simp [push, hevents], hlines⟩

theorem Session.carried_parallel (rule : Rule) (before before' : Journal) :
    Carried rule (fun _ => False) (Session.Parallel before before') where
  stop_push _ _ := id
  stop_say _ _ := id
  stop_write _ _ _ := id
  stop_take _ _ := id
  executed s t step := parallel_push (.executed step)
  bound s t name item := parallel_push (.bound name item)
  entered s t id := parallel_push (.entered id)
  say s t line := by
    rintro ⟨hvars, hevents, lines, hs, ht⟩
    exact ⟨hvars, hevents, lines ++ [line], by simp [say, hs], by simp [say, ht]⟩
  write s t name v := by
    rintro ⟨hvars, hevents, hlines⟩
    exact ⟨by simp [write, hvars], by simp [write, hevents], hlines⟩
  take s t signal := by
    rintro ⟨hvars, hevents, hlines⟩
    exact Or.inr ⟨by rw [hvars], by simp [take, hvars], by simp [take, hevents], hlines⟩
  reads step _ path _ s t hst := by rw [hst.1]

/-- No rule reads the journal. -/
theorem Rule.runWith_journal (rule : Rule) (store : Store) (key : String) (v : Value)
    (before before' : Journal) (allowance : Nat) :
    (rule.runWith store key v before allowance).1 = (rule.runWith store key v before' allowance).1 ∧
      Session.Parallel before before' (rule.runWith store key v before allowance).2
        (rule.runWith store key v before' allowance).2 := by
  unfold Rule.runWith
  split
  · next vars _ =>
    have hrun := (Session.carried_parallel rule before before').alike_runWithin store
      (rule.size + allowance) fun s t hst => by rw [hst.1]
    exact hrun.endings ⟨rfl, rfl, [], by simp, by simp⟩
  · exact ⟨rfl, rfl, rfl, [], by simp, by simp⟩

/-- The same way, written down behind one diary and behind another. -/
def Trip.Parallel (before before' : Diary) (a b : Trip) : Prop :=
  a.subject = b.subject ∧ a.transitions = b.transitions ∧ ∃ lines asked,
    a.diary = ⟨before.journal ++ lines, before.asked ++ asked⟩ ∧
    b.diary = ⟨before'.journal ++ lines, before'.asked ++ asked⟩

namespace Workflow

open Travel

variable {w : Workflow} {allowance : Nat}

/-- The relation goes through everything that happens on the way of a subject, with one allowance for
rules and with another. -/
structure Along (w : Workflow) (allowance allowance' : Nat)
    (Rel : ∀ {α : Type}, Travel α → Travel α → Prop) : Prop where
  rel_pure : ∀ {α : Type} (a : α), Rel (pure a) (pure a)
  rel_bind : ∀ {α β : Type} {x y : Travel α} {f g : α → Travel β}, Rel x y →
    (∀ a, Rel (f a) (g a)) → Rel (x >>= f) (y >>= g)
  rel_lift : ∀ {α : Type} (r : Except Error α), Rel (lift r) (lift r)
  rel_unfinished : Rel (unfinished : Travel Halt) unfinished
  rel_traveller : Rel traveller traveller
  rel_say : ∀ level message, Rel (say level message) (say level message)
  rel_ask : ∀ state, Rel (ask state) (ask state)
  rel_moveTo : ∀ state, Rel (moveTo state) (moveTo state)
  rel_judge : ∀ rule, Rel (w.judge allowance rule) (w.judge allowance' rule)

section Ways

variable {allowance' : Nat} {Rel : ∀ {α : Type}, Travel α → Travel α → Prop}

theorem Along.rel_promote (h : Along w allowance allowance' Rel) (subject : Subject) :
    Rel (w.promote subject) (w.promote subject) := by
  refine h.rel_bind (h.rel_lift _) fun found => ?_
  cases found with
  | none => exact h.rel_bind (h.rel_say _ _) fun _ => h.rel_pure _
  | some next =>
    refine h.rel_bind (h.rel_say _ _) fun _ => ?_
    exact h.rel_bind (h.rel_moveTo next) fun _ => h.rel_pure _

theorem Along.rel_hear (h : Along w allowance allowance' Rel) (subject : Subject) (rule : Rule) :
    Rel (w.hear allowance subject rule) (w.hear allowance' subject rule) := by
  refine h.rel_bind (h.rel_say _ _) fun _ => ?_
  refine h.rel_bind (h.rel_judge rule) fun verdict => ?_
  refine h.rel_bind (h.rel_say _ _) fun _ => ?_
  split
  · exact h.rel_promote subject
  · exact h.rel_bind (h.rel_say _ _) fun _ => h.rel_pure _

theorem Along.rel_round (h : Along w allowance allowance' Rel) :
    Rel (w.round allowance) (w.round allowance') := by
  refine h.rel_bind h.rel_traveller fun subject => ?_
  refine h.rel_bind (h.rel_lift _) fun terminal => ?_
  split
  · exact h.rel_bind (h.rel_say _ _) fun _ => h.rel_pure _
  · refine h.rel_bind (h.rel_ask _) fun _ => ?_
    refine h.rel_bind (h.rel_lift _) fun found => ?_
    cases found with
    | none => exact h.rel_bind (h.rel_say _ _) fun _ => h.rel_pure _
    | some rule => exact h.rel_hear subject rule

theorem Along.rel_walk (h : Along w allowance allowance' Rel) (rounds : Nat) :
    Rel (w.walk allowance rounds) (w.walk allowance' rounds) := by
  induction rounds with
  | zero => exact h.rel_unfinished
  | succ rounds ih =>
    refine h.rel_bind h.rel_round fun halt => ?_
    cases halt with
    | none => exact ih
    | some halt => exact h.rel_pure halt

end Ways

section Diaries

variable {before before' : Diary}

theorem alike_say (level : Level) (message : String) :
    Alike (fun _ => False) (Trip.Parallel before before') (say level message)
      (say level message) := by
  refine alike_update (fun _ => id) ?_
  rintro a b ⟨hsubject, htransitions, lines, asked, ha, hb⟩
  exact ⟨hsubject, htransitions, lines ++ [⟨.engine, level, message⟩], asked,
    by simp [ha, Diary.say], by simp [hb, Diary.say]⟩

theorem alike_ask (state : String) :
    Alike (fun _ => False) (Trip.Parallel before before') (ask state) (ask state) := by
  refine alike_update (fun _ => id) ?_
  rintro a b ⟨hsubject, htransitions, lines, asked, ha, hb⟩
  exact ⟨hsubject, htransitions, lines, asked ++ [state], by simp [ha], by simp [hb]⟩

theorem alike_moveTo (state : String) :
    Alike (fun _ => False) (Trip.Parallel before before') (moveTo state) (moveTo state) := by
  refine alike_update (fun _ => id) ?_
  rintro a b ⟨hsubject, htransitions, hdiary⟩
  exact ⟨by simp [hsubject], by simp [htransitions], hdiary⟩

theorem alike_traveller :
    Alike (fun _ => False) (Trip.Parallel before before') traveller traveller :=
  ⟨fun _ => id, fun _ _ hab => Or.inr ⟨congrArg Ending.done hab.1, hab⟩⟩

theorem alike_judge (rule : Rule) :
    Alike (fun _ => False) (Trip.Parallel before before') (w.judge allowance rule)
      (w.judge allowance rule) := by
  refine ⟨fun _ => id, ?_⟩
  rintro ⟨subject, transitions, diary⟩ ⟨subject', transitions', diary'⟩ hab
  obtain ⟨hsubject, htransitions, lines, asked, ha, hb⟩ := hab
  change subject = subject' at hsubject
  subst subject'
  change diary = _ at ha
  change diary' = _ at hb
  subst diary diary'
  obtain ⟨hending, _, _, new, hs, ht⟩ := rule.runWith_journal w.store w.subjectKey
    subject.project _ _ allowance
  refine Or.inr ⟨hending, rfl, htransitions, lines ++ new, asked, ?_, ?_⟩
  · simp [judge, hs]
  · simp [judge, ht]

theorem along_parallel (w : Workflow) (allowance : Nat) (before before' : Diary) :
    Along w allowance allowance (Alike (fun _ => False) (Trip.Parallel before before')) where
  rel_pure := alike_pure
  rel_bind := Alike.bind
  rel_lift := alike_lift
  rel_unfinished := alike_unfinished
  rel_traveller := alike_traveller
  rel_say := alike_say
  rel_ask := alike_ask
  rel_moveTo := alike_moveTo
  rel_judge := alike_judge

end Diaries

/-- How a subject fares does not depend on what was written down before it. -/
theorem travel_diary (w : Workflow) (subject : Subject) (before before' : Diary)
    (allowance : Nat) :
    (w.travel subject before allowance).1 = (w.travel subject before' allowance).1 ∧
      Trip.Parallel before before' (w.travel subject before allowance).2
        (w.travel subject before' allowance).2 :=
  ((along_parallel w allowance before before').rel_walk w.states.names.length).endings
    ⟨rfl, rfl, [], [], by simp, by simp⟩

section Subjects

/-- The subject stays as it is until it makes a transition; from then on only its state is new. -/
def Leads (a b : Trip) : Prop :=
  (b.subject = a.subject ∧ b.transitions = a.transitions) ∨
    (b.subject = a.subject.moveTo b.subject.state ∧ a.transitions < b.transitions)

theorem leads_refl (a : Trip) : Leads a a := Or.inl ⟨rfl, rfl⟩

theorem leads_trans {a b c : Trip} (hab : Leads a b) (hbc : Leads b c) : Leads a c := by
  obtain ⟨hsubject, hn⟩ | ⟨hsubject, hn⟩ := hbc
  · unfold Leads
    rw [hsubject, hn]
    exact hab
  · obtain ⟨hsubject', hn'⟩ | ⟨hsubject', hn'⟩ := hab
    · exact Or.inr ⟨hsubject' ▸ hsubject, hn' ▸ hn⟩
    · refine Or.inr ⟨?_, Nat.lt_trans hn' hn⟩
      rw [hsubject, hsubject', Subject.moveTo_moveTo]
      rfl

theorem along_leads (w : Workflow) (allowance : Nat) :
    Along w allowance allowance fun x _ => Moves Leads x where
  rel_pure := moves_pure leads_refl
  rel_bind hx hf := hx.bind leads_trans hf
  rel_lift := moves_lift leads_refl
  rel_unfinished := moves_unfinished leads_refl
  rel_traveller := leads_refl
  rel_say _ _ := moves_update fun _ => Or.inl ⟨rfl, rfl⟩
  rel_ask _ := moves_update fun _ => Or.inl ⟨rfl, rfl⟩
  rel_moveTo _ := moves_update fun _ => Or.inr ⟨rfl, Nat.lt_succ_self _⟩
  rel_judge _ := fun _ => Or.inl ⟨rfl, rfl⟩

/-- With or without a success in the end, a way changes nothing but the state. -/
theorem travel_leads (w : Workflow) (subject : Subject) (diary : Diary) (allowance : Nat) :
    Leads ⟨subject, 0, diary⟩ (w.travel subject diary allowance).2 :=
  (along_leads w allowance).rel_walk w.states.names.length _

end Subjects

/-- Whether a round or a whole way ends without a failure on record. -/
def Clean (halt : Option Halt) : Prop :=
  ∀ made, halt = some made → made.isFailed = false

theorem yields_round : Yields Clean (w.round allowance) := by
  have halts : ∀ made : Halt, made.isFailed = false →
      Yields (σ := Trip) Clean (pure (some made)) := by
    intro made hmade
    exact yields_pure fun _ h => Option.some.inj h ▸ hmade
  refine yields_bind fun subject => yields_bind fun terminal => ?_
  split
  · exact yields_bind fun _ => halts _ rfl
  · refine yields_bind fun _ => yields_bind fun found => ?_
    cases found with
    | none => exact yields_bind fun _ => halts _ rfl
    | some rule =>
      refine yields_bind fun _ => yields_bind fun verdict => yields_bind fun _ => ?_
      split
      · refine yields_bind fun next => ?_
        cases next with
        | none => exact yields_bind fun _ => halts _ rfl
        | some next => exact yields_bind fun _ => yields_bind fun _ => yields_pure nofun
      · exact yields_bind fun _ => halts _ rfl

theorem yields_walk (rounds : Nat) :
    Yields (fun halt => halt.isFailed = false) (w.walk allowance rounds) := by
  induction rounds with
  | zero => exact nofun
  | succ rounds ih =>
    refine yields_round.bind fun halt hclean => ?_
    cases halt with
    | none => exact ih
    | some halt => exact yields_pure (hclean halt rfl)

/-- A way that ends without an error never reports one. -/
theorem travel_not_failed {subject : Subject} {diary : Diary} {halt : Halt}
    (h : (w.travel subject diary allowance).1 = .done halt) : halt.isFailed = false :=
  yields_walk w.states.names.length _ halt h

theorem walk_policy (w : Workflow) (policy : Policy) (allowance : Nat) (rounds : Nat) :
    { w with policy }.walk allowance rounds = w.walk allowance rounds := by
  induction rounds with
  | zero => rfl
  | succ rounds ih =>
    simp only [walk, ih]
    rfl

/-- The policy is none of a single subject's business. -/
theorem travel_policy (w : Workflow) (policy : Policy) (subject : Subject) (diary : Diary)
    (allowance : Nat) :
    { w with policy }.travel subject diary allowance = w.travel subject diary allowance := by
  simp only [travel, walk_policy]

end Workflow
end StageGate
