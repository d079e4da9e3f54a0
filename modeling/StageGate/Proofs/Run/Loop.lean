import StageGate.Proofs.Run.Signals

/-! When a break ends its loop: always, unless the chain that raised it goes on to the next item. -/
namespace StageGate

open Effect Exec

/-- The rest of a loop: steps of its body for the current item, then the items that follow. -/
def runRest (chain : String → Exec Signal) (name : String) (body ids : List String)
    (rest : List Value) : Exec Signal :=
  runBody chain ids >>= fun signal =>
    if signal = .stop then pure .stop
    else if signal = .leaveLoop then pure .proceed
    else runItems chain name body rest

/-- Started at `s`, the loop over the items comes to this place, with this rest of it to follow. -/
inductive Reached (chain : String → Exec Signal) (name : String) (body : List String)
    (items : List Value) (s : Session) : List String → List Value → Session → Prop
  | start {item rest t} (hitems : items = item :: rest)
      (hassign : assign name item s = (.done (), t)) :
    Reached chain name body items s body rest (t.push (.bound name item))
  | turn {id ids rest t u} (h : Reached chain name body items s (id :: ids) rest t)
      (hturn : runTurn chain id t = (.done .proceed, u)) :
    Reached chain name body items s ids rest u
  | skip {id ids item rest t u v}
      (h : Reached chain name body items s (id :: ids) (item :: rest) t)
      (hturn : runTurn chain id t = (.done .nextItem, u))
      (hassign : assign name item u = (.done (), v)) :
    Reached chain name body items s body rest (v.push (.bound name item))
  | next {item rest t u} (h : Reached chain name body items s [] (item :: rest) t)
      (hassign : assign name item t = (.done (), u)) :
    Reached chain name body items s body rest (u.push (.bound name item))

section Places

variable {chain : String → Exec Signal} {id name source : String} {ids body : List String}
  {item : Value} {items rest : List Value} {s t u : Session} {signal : Signal}

theorem runItems_of_assign (h : assign name item s = (.done (), t)) :
    runItems chain name body (item :: rest) s =
      runRest chain name body body rest (t.push (.bound name item)) := by
  rw [runItems_cons, bind_apply, h]
  rfl

theorem runRest_nil : runRest chain name body [] rest = runItems chain name body rest := rfl

theorem runRest_cons (h : runTurn chain id s = (.done signal, t)) :
    runRest chain name body (id :: ids) rest s =
      match signal with
      | .proceed => runRest chain name body ids rest t
      | .leaveLoop => (.done .proceed, t)
      | .nextItem => runItems chain name body rest t
      | .stop => (.done .stop, t) := by
  simp only [runRest, runBody_cons, bind_apply, h]
  cases signal <;> rfl

/-- From any place it comes to, a loop goes on with what is left there. -/
theorem Reached.runItems_eq (h : Reached chain name body items s ids rest t) :
    runItems chain name body items s = runRest chain name body ids rest t := by
  induction h with
  | start hitems hassign => rw [hitems, runItems_of_assign hassign]
  | turn _ hturn ih => rw [ih, runRest_cons hturn]
  | skip _ hturn hassign ih => rw [ih, runRest_cons hturn, ← runItems_of_assign hassign]
  | next _ hassign ih => rw [ih, runRest_nil, runItems_of_assign hassign]

end Places

section Breaks

variable {rule : Rule} {store : Store} {depth : Nat} {start id name source : String} {step : Step}
  {ids body : List String} {items rest : List Value} {s t u : Session} {signal : Signal}

/-- Items leave marks: a loop that ends where it started had none. -/
theorem eq_nil_of_runItems (hname : ∀ v, rule.Writes name v)
    (h : runItems (runChain rule store depth) name body items s = (.done .proceed, s)) :
    items = [] := by
  cases items with
  | nil => rfl
  | cons item items =>
    let chain := runChain rule store depth
    have hclosed := closed_suffix rule
    have hrespects : Respects (fun x _ => Moves (fun s t => s.events <:+ t.events) x)
        (.loop "" name body) := by
      refine hclosed.respects fun other v hwrites => ?_
      cases hwrites with
      | target h v =>
        cases h
        exact hname v
    have hchain : ∀ id ∈ body, Moves (fun s t => s.events <:+ t.events) (chain id) :=
      fun id _ => hclosed.moves_runChain store depth id
    have hrest : Moves (fun s t => s.events <:+ t.events)
        (runRest chain name body body items) := by
      refine hclosed.bind (hrespects.rel_runBody chain chain hchain) fun signal => ?_
      split
      · exact moves_pure hclosed.refl _
      split
      · exact moves_pure hclosed.refl _
      · exact hrespects.rel_runItems chain chain (fun v => .target rfl v) hchain items
    have hbind := h
    rw [runItems_cons] at hbind
    obtain ⟨_, t, hassign, -⟩ := bind_eq_done_iff.mp hbind
    have hmore := hrest (t.push (.bound name item))
    rw [← runItems_of_assign hassign, h, eq_write_of_assign hassign] at hmore
    have hlength := hmore.length_le
    simp only [Session.push, Session.write, List.length_cons] at hlength
    omega

/-- With a break up, a loop is over as soon as the chain of a step of its body is, unless the chain
ends with going on to the next item and there is one: then the break is lost. -/
theorem break_ends_loop_iff (hstep : rule.step start = .ok step)
    (haction : step.action = .loop source name body)
    (hitems : s.vars.resolve source = .list items)
    (hreached : Reached (runChain rule store depth) name body items s (id :: ids) rest t)
    (hchain : runChain rule store depth id (t.push (.entered id)) = (.done signal, u))
    (hbreak : u.vars.isRaised Variables.breakName = true) (hstop : signal ≠ .stop) :
    let loop := runAction store (runChain rule store depth) step.action
    (loop s = (.done .proceed, u.lowered) ↔ signal ≠ .nextItem ∨ rest = []) ∧
      (signal = .nextItem →
        loop s = runItems (runChain rule store depth) name body rest u.lowered) ∧
      (signal ≠ .nextItem ∨ rest = [] → ∀ before, s = before.push (.executed step) →
        runChain rule store (depth + 1) start before =
          match step.next with
          | some next => runChain rule store depth next u.lowered
          | none => (.done .proceed, u.lowered)) := by
  intro loop
  have hloop : loop s = runRest (runChain rule store depth) name body (id :: ids) rest t := by
    simp only [loop, haction, runAction, runLoop_apply, hitems]
    exact hreached.runItems_eq
  have hturn := runTurn_of_chain hchain
  rw [hbreak] at hturn
  have hskip : signal = .nextItem →
      loop s = runItems (runChain rule store depth) name body rest u.lowered := by
    rintro rfl
    rw [hloop, runRest_cons hturn]
    rfl
  have hends : loop s = (.done .proceed, u.lowered) ↔ signal ≠ .nextItem ∨ rest = [] := by
    cases signal with
    | proceed => simp [hloop, runRest_cons hturn, Signal.orRaised]
    | leaveLoop => simp [hloop, runRest_cons hturn, Signal.orRaised]
    | nextItem =>
      rw [hskip rfl]
      constructor
      · intro h
        refine Or.inr (eq_nil_of_runItems (fun v => ?_) h)
        exact ⟨step, Rule.mem_of_step hstep, .target (by rw [haction]; rfl) v⟩
      · intro h
        obtain rfl := h.resolve_left fun hne => hne rfl
        rfl
    | stop => exact (hstop rfl).elim
  refine ⟨hends, hskip, ?_⟩
  rintro hover before rfl
  exact runChain_of_action hstep (hends.mpr hover)

end Breaks

/-- Before the loop over the `xs`. -/
def atLoop (xs : List Value) : Session := ⟨Variables.initial.put "xs" (.list xs), [], []⟩

/-- A loop over the `xs`, with a branch that raises a break for the second of them. -/
def leaveAtTwo : Rule where
  name := "leaveAtTwo"
  steps := [⟨"start", some "done", .loop "xs" "x" ["visit", "after"]⟩,
    ⟨"visit", none, .branch ⟨"x", "==", .whole (.ofInt64 2)⟩ ["leave"] []⟩,
    ⟨"leave", none, .leaveLoop⟩,
    ⟨"after", none, .assign "seen" (.string "@x")⟩,
    ⟨"done", none, .assign "over" (.bool true)⟩]
  distinct := by decide
  starts := by decide

/-- At the loop of `leaveAtTwo`, with three items. -/
def atThree : Session :=
  (atLoop [.int 1, .int 2, .int 3]).push
    (.executed ⟨"start", some "done", .loop "xs" "x" ["visit", "after"]⟩)

def inFirst : Session :=
  (atThree.write "x" (.int 1)).push (.bound "x" (.int 1))

def pastVisit : Session :=
  ((inFirst.push (.entered "visit")).push
    (.executed ⟨"visit", none, .branch ⟨"x", "==", .whole (.ofInt64 2)⟩ ["leave"] []⟩)).lowered

def pastFirst : Session :=
  (((pastVisit.push (.entered "after")).push
    (.executed ⟨"after", none, .assign "seen" (.string "@x")⟩)).write "seen" (.int 1)).lowered

def inSecond : Session :=
  (pastFirst.write "x" (.int 2)).push (.bound "x" (.int 2))

theorem reached_inSecond : Reached (runChain leaveAtTwo .empty 5) "x" ["visit", "after"]
    [.int 1, .int 2, .int 3] atThree ["visit", "after"] [.int 3] inSecond := by
  have hvisit : runTurn (runChain leaveAtTwo .empty 5) "visit" inFirst =
      (.done .proceed, pastVisit) := rfl
  have hafter : runTurn (runChain leaveAtTwo .empty 5) "after" pastVisit =
      (.done .proceed, pastFirst) := rfl
  exact .next (.turn (.turn (.start rfl rfl) hvisit) hafter) rfl

/-- A step of the body and an item are left, and the loop is over. -/
theorem break_ends_loop_iff_leaveAtTwo :
    leaveAtTwo.step "start" = .ok ⟨"start", some "done", .loop "xs" "x" ["visit", "after"]⟩ ∧
      Reached (runChain leaveAtTwo .empty 5) "x" ["visit", "after"] [.int 1, .int 2, .int 3]
        atThree ["visit", "after"] [.int 3] inSecond ∧
      ∃ u, runChain leaveAtTwo .empty 5 "visit" (inSecond.push (.entered "visit")) =
          (.done .proceed, u) ∧
        u.vars.isRaised Variables.breakName = true ∧
        runAction .empty (runChain leaveAtTwo .empty 5) (.loop "xs" "x" ["visit", "after"])
          atThree = (.done .proceed, u.lowered) ∧
        runChain leaveAtTwo .empty 6 "start" (atLoop [.int 1, .int 2, .int 3]) =
          runChain leaveAtTwo .empty 5 "done" u.lowered := by
  have hstep : leaveAtTwo.step "start" =
      .ok ⟨"start", some "done", .loop "xs" "x" ["visit", "after"]⟩ := rfl
  obtain ⟨hends, -, hnext⟩ := break_ends_loop_iff hstep rfl rfl reached_inSecond rfl rfl nofun
  exact ⟨hstep, reached_inSecond, _, rfl, rfl, hends.mpr (Or.inl nofun),
    hnext (Or.inl nofun) _ rfl⟩

/-- For the first of the `xs`, a branch raises a break; then the chain goes on to the next item. -/
def leaveAndSkip : Rule where
  name := "leaveAndSkip"
  steps := [⟨"start", none, .loop "xs" "x" ["visit"]⟩,
    ⟨"visit", some "check", .assign "seen" (.string "@x")⟩,
    ⟨"check", some "skip", .branch ⟨"x", "==", .whole (.ofInt64 1)⟩ ["leave"] []⟩,
    ⟨"leave", none, .leaveLoop⟩,
    ⟨"skip", none, .nextItem⟩]
  distinct := by decide
  starts := by decide

/-- At the loop, with the first of the `xs` bound. -/
def atFirst (xs : List Value) : Session :=
  ((atLoop xs).write "x" (.int 1)).push (.bound "x" (.int 1))

/-- The chain for the first item ends with a break up, and yet the second is visited. -/
theorem leaveAndSkip_break_lost :
    (∃ u, runChain leaveAndSkip .empty 5 "visit"
        ((atFirst [.int 1, .int 2]).push (.entered "visit")) = (.done .nextItem, u) ∧
      u.vars.isRaised Variables.breakName = true) ∧
    ((runAction .empty (runChain leaveAndSkip .empty 5) (.loop "xs" "x" ["visit"])
      (atLoop [.int 1, .int 2])).2.vars.find? "seen").bind Value.int? = some 2 :=
  ⟨⟨_, rfl, rfl⟩, rfl⟩

end StageGate
