import StageGate.Command.Run
import StageGate.Proofs.StateTree
import StageGate.Proofs.Workflow.Frame

/-! The tree that a batch prints, against the order of its workflow and the report on its
subjects. -/
namespace StageGate

open StateTree

namespace Workflow

variable {w : Workflow} {roster : Roster} {subject : Subject} {record : Json} {made : Journey}
  {alone : Diary} {allowance : Nat}

/-- Without a transition a subject is said to be where it was. -/
theorem reported?_unmoved (h : w.reported? subject alone allowance = some made)
    (hunmoved : made.transitions = 0) : made.finish = subject.state := by
  obtain ⟨hfinish, htransitions⟩ := reported?_eq_some h
  have hleads := w.travel_leads subject alone allowance
  rw [advance_trip] at hfinish htransitions
  obtain ⟨hsubject, -⟩ | ⟨-, hn⟩ := hleads
  · rw [hfinish, hsubject]
  · omega

/-- A record that is settled shows the state where its journey ended, unless there was no journey
and the state has had blanks around it from the start. -/
theorem settled_shows_finish
    (hload : Subject.ofRecord roster.idField roster.stateField record = .ok subject)
    (hentry : w.reported? subject alone allowance = some made) :
    ∃ stored, record.field? roster.stateField = some (.string stored) ∧
      (fieldText (roster.settled record made) roster.stateField = made.finish ↔
        0 < made.transitions ∨ Text.trim stored = stored) := by
  obtain ⟨rfl, -, -, stored, hstored, hstate⟩ := Subject.ofRecord_eq_ok_iff.mp hload
  refine ⟨stored, hstored, ?_⟩
  unfold Roster.settled Subject.toRecord fieldText Json.field?
  by_cases hunmoved : made.transitions = 0
  · have hfinish := reported?_unmoved hentry hunmoved
    simp only [hunmoved, if_true, hstored, hfinish, hstate, Nat.lt_irrefl, false_or]
    exact eq_comm
  · simp only [if_neg hunmoved, Fields.find?_insert, if_true, Nat.pos_of_ne_zero hunmoved, true_or,
      iff_true]
    rfl

/-- The record that stands for a subject after a run shows the state where its journey ended, unless
there was no journey and the state has had blanks around it from the start. -/
theorem kept_shows_finish {report : Report} {subjects : List Subject} {before after : List Json}
    {i l : Nat}
    (hloads : List.Forall₂ (fun record subject =>
      Subject.ofRecord roster.idField roster.stateField record = .ok subject) before subjects)
    (hentries : List.Forall₂ (fun subject journey =>
      w.reported? subject alone allowance = some journey) subjects report.journeys)
    (hkeeps : roster.Keeps before report.journeys after)
    (hfirst : roster.IsFirst before i) (hlast : roster.IsLast before l)
    (hsame : roster.idAt? before l = roster.idAt? before i) (hrecord : before[l]? = some record)
    (hmade : report.journeys[l]? = some made) :
    ∃ stored settled, record.field? roster.stateField = some (.string stored) ∧
      after[i]? = some settled ∧
      (fieldText settled roster.stateField = made.finish ↔
        0 < made.transitions ∨ Text.trim stored = stored) := by
  obtain ⟨hl, rfl⟩ := List.getElem?_eq_some_iff.mp hrecord
  obtain ⟨hl', rfl⟩ := List.getElem?_eq_some_iff.mp hmade
  have hl'' : l < subjects.length := hloads.length_eq ▸ hl
  have hload := hloads.get hl hl''
  have hentry := hentries.get hl'' hl'
  obtain ⟨stored, hstored, hshows⟩ := settled_shows_finish hload hentry
  have hi : i < before.length := by
    by_contra hi
    obtain ⟨hwhole, -, hshown⟩ := Roster.ofRecord_eq_ok hload
    unfold Roster.Shows at hshown
    rw [← hwhole] at hshown
    rw [Roster.idAt?_of_ge (Nat.le_of_not_lt hi), Roster.idAt?, hrecord] at hsame
    cases hsame.symm.trans hshown
  refine ⟨stored, _, hstored, ?_, hshows⟩
  rw [hkeeps.first hi hfirst hlast hsame]
  simp [List.getElem?_zipWith, List.getElem?_eq_getElem hl, List.getElem?_eq_getElem hl']

end Workflow

/-- The groups of states that the workflow has come in its order. -/
def StateOrder.Orders (states : StateOrder) (tree : List Block) : Prop :=
  ((tree.map Block.state).filter (· ∈ states.names)).Sublist states.names

namespace Batch

/-- The tree shows each state with its records. The states come as the settings spell them: where no
name has blanks around it, that is the order of the workflow. Of the records that share an id, the
first one stands for the last subject: it is in the group where that subject's journey ended if and
only if there was a journey or the state had no blanks around it before. -/
theorem printed_tree_of_done (w : Workflow) (settings : Settings) (diary : Diary) (allowance : Nat)
    {report : Report} {store : Store} {diary' : Diary}
    (hfields : settings.idField ≠ settings.stateField)
    (hstates : StateOrder.ofList settings.states = .ok w.states)
    (hdone : w.runRoster settings.roster diary allowance = (.done report, store, diary')) :
    ∃ before after others, w.store.records settings.subjectKind = .ok before ∧
      store.records settings.subjectKind = .ok after ∧
      let tree := blocks settings.stateField settings.states after
      print settings store report =
          .ok (String.join (tree.flatMap (Block.lines settings.idField)) ++ report.summary) ∧
        (∀ block, block ∈ tree ↔ occurs settings.stateField after block.state = true ∧
          block.members = recordsIn settings.stateField block.state after) ∧
        tree.map Block.state =
          settings.states.filter (occurs settings.stateField after) ++ others ∧
        others.Pairwise (· < ·) ∧
        (∀ state, state ∈ others ↔
          occurs settings.stateField after state = true ∧ state ∉ settings.states) ∧
        ((∀ state ∈ settings.states, Text.trim state = state) → w.states.Orders tree) ∧
        ∀ i l record journey, settings.roster.IsFirst before i → settings.roster.IsLast before l →
          settings.roster.idAt? before l = settings.roster.idAt? before i →
          before[l]? = some record → report.journeys[l]? = some journey →
          ∃ stored settled, record.field? settings.stateField = some (.string stored) ∧
            after[i]? = some settled ∧
            ((∃ block ∈ tree, block.state = journey.finish ∧ settled ∈ block.members) ↔
              0 < journey.transitions ∨ Text.trim stored = stored) := by
  obtain ⟨subjects, before, after, hbefore, hafter, hloads, hentries, hkeeps⟩ :=
    Workflow.runRoster_kept hfields hdone
  obtain ⟨others, horder, hascending, hothers⟩ :=
    states_blocks settings.stateField settings.states after
  rw [eraseDups_of_nodup ((StateOrder.nodup_of_ofList hstates).filter _)] at horder
  refine ⟨before, after, others, hbefore, hafter, ?_, fun block => mem_blocks_iff, horder,
    hascending, hothers, fun htrimmed => ?_, ?_⟩
  · unfold print
    rw [show store.records settings.subjectKind = .ok after from hafter]
    rfl
  · have hnames : w.states.names = settings.states := by
      rw [StateOrder.names_of_ofList hstates]
      exact (List.map_congr_left htrimmed).trans (List.map_id' settings.states)
    have hnone : others.filter (· ∈ w.states.names) = [] := by
      refine List.filter_eq_nil_iff.mpr fun state hmem => ?_
      rw [decide_eq_true_iff, hnames]
      exact ((hothers state).mp hmem).2
    unfold StateOrder.Orders
    rw [horder, List.filter_append, hnone, List.append_nil, hnames]
    exact List.filter_sublist.trans List.filter_sublist
  · intro i l record journey hfirst hlast hsame hrecord hjourney
    obtain ⟨stored, settled, hstored, hsettled, hshows⟩ :=
      Workflow.kept_shows_finish hloads hentries hkeeps hfirst hlast hsame hrecord hjourney
    refine ⟨stored, settled, hstored, hsettled, ?_⟩
    rw [mem_group_iff (List.mem_of_getElem? hsettled)]
    exact hshows

/-- Settings whose states are separated by commas and blanks. -/
def spaced : Settings :=
  { Settings.standard with states := Settings.readStates "New, Open, Done" }

def crowd : List Json :=
  [.object [("CurrentState", .string "Open"), ("Id", .whole (.ofInt64 1)), ("Name", .string "Ana")],
   .object [("CurrentState", .string "Done"), ("Id", .whole (.ofInt64 2)), ("Name", .string "Ben")],
   .object [("CurrentState", .string " New "), ("Id", .whole (.ofInt64 3)),
    ("Name", .string "Cleo")]]

/-- Nobody moves. -/
def idle : Workflow where
  states := ⟨["New", "Open", "Done"], by simp, by decide⟩
  ruleFor _ := .ok none
  store := ⟨[("People", crowd)]⟩
  subjectKey := "subject"
  policy := .failFast

theorem printed_tree_of_done_idle :
    spaced.idField ≠ spaced.stateField ∧ StateOrder.ofList spaced.states = .ok idle.states ∧
      ∃ report store diary others,
        idle.runRoster spaced.roster ⟨[], []⟩ 0 = (.done report, store, diary) ∧
        (blocks spaced.stateField spaced.states crowd).map Block.state =
          spaced.states.filter (occurs spaced.stateField crowd) ++ others ∧
        others.Pairwise (· < ·) ∧
        ∃ settled, crowd[0]? = some settled ∧
          ∃ block ∈ blocks spaced.stateField spaced.states crowd,
            block.state = "Open" ∧ settled ∈ block.members := by
  obtain ⟨before, after, others, hbefore, hafter, -, -, horder, hascending, -, -, hgroups⟩ :=
    printed_tree_of_done idle spaced ⟨[], []⟩ 0 (by decide) rfl rfl
  obtain rfl : crowd = before := Except.ok.inj hbefore
  obtain rfl : crowd = after := Except.ok.inj hafter
  have hlast : spaced.roster.IsLast crowd 0 := by
    intro j hj
    match j with
    | 1 => decide
    | 2 => decide
    | j + 3 => exact nofun
  obtain ⟨stored, settled, hstored, hsettled, hgroup⟩ :=
    hgroups 0 0 _ _ Roster.isFirst_zero hlast rfl rfl rfl
  cases hstored
  exact ⟨by decide, rfl, _, _, _, others, rfl, horder, hascending, settled, hsettled,
    hgroup.mpr (Or.inr (by decide))⟩

/-- Whatever run comes through, the tree printed after it is such. -/
def OfEveryTree (P : Workflow → Settings → Report → List Block → Prop) : Prop :=
  ∀ (w : Workflow) (settings : Settings) (diary : Diary) (allowance : Nat) (report : Report)
    (store : Store) (diary' : Diary) (after : List Json),
    StateOrder.ofList settings.states = .ok w.states →
    w.runRoster settings.roster diary allowance = (.done report, store, diary') →
    store.records settings.subjectKind = .ok after →
    P w settings report (blocks settings.stateField settings.states after)

/-- Open comes after Done, and Cleo is not where her journey is said to have ended. -/
theorem printed_tree_strays :
    ¬OfEveryTree (fun w _ _ tree => w.states.Orders tree) ∧
      ¬OfEveryTree (fun _ settings report tree => ∀ journey ∈ report.journeys,
        ∃ block ∈ tree, block.state = journey.finish ∧
          ∃ record ∈ block.members, settings.roster.idText? record = some journey.subjectId) := by
  constructor
  · intro h
    have horder := h idle spaced ⟨[], []⟩ 0 _ _ _ crowd rfl rfl rfl
    unfold StateOrder.Orders at horder
    exact absurd horder (by decide)
  · intro h
    obtain ⟨block, hblock, hstate, -⟩ := h idle spaced ⟨[], []⟩ 0 _ _ _ crowd rfl rfl rfl
      ⟨"3", "New", "New", .noRule, 0⟩ (by decide)
    have hgroups : ∀ block ∈ blocks spaced.stateField spaced.states crowd,
        block.state ≠ "New" := by decide
    exact hgroups block hblock hstate

end Batch
end StageGate
