/-
This file shows that changes of different windows do not get in each other's way. What a change does
to a window hangs on the place of that window, on the workspaces and on the focus, and a change that
leaves the focus alone changes the place of no other window and nothing of that. It therefore does
not matter which one of two such changes comes first.

This is said of the models that a tick goes through while it carries out the changes of windows,
after all the work on workspaces has been done.
-/

import Deskbar.Proofs.Delivery
import Deskbar.Proofs.Effect

namespace Deskbar

/-- The address without its lead of the window that a change is about. A change of the focus is
about every window. -/
def WindowChange.subject? : WindowChange → Option String
  | .opened address _ _ _ => some (plainAddress address)
  | .closed address => some (plainAddress address)
  | .moved address _ => some (plainAddress address)
  | .retitled address _ => some (plainAddress address)
  | .urgent address => some (plainAddress address)
  | .focused _ => none

namespace Model

/-! ### Changes of one window -/

section Subject

variable {change : WindowChange} {subject : String}

theorem unfocused_of_subject? (about : change.subject? = some subject) (focused : Option String) :
    change ≠ .focused focused := by
  rintro rfl
  cases about

theorem touches_of_subject? (about : change.subject? = some subject) {address : String}
    (different : address ≠ subject) : change.touches address = false := by
  cases change with
  | urgent other => rfl
  | focused other => rfl
  | _ =>
    obtain rfl := Option.some.inj about
    exact decide_eq_false different.symm

theorem leads_of_subject? (about : change.subject? = some subject) (bar : Bar)
    (snapshot : Snapshot) (model : Model) {address : String} (different : address ≠ subject)
    (place : Place) : model.leads bar snapshot address place change = place := by
  rw [leads, touches_of_subject? about different, if_neg Bool.false_ne_true]
  cases change with
  | focused other => cases about
  | _ => rfl

theorem focusAfter_of_subject? (about : change.subject? = some subject)
    (focused : Option String) : focusAfter focused change = focused := by
  cases change with
  | focused other => cases about
  | _ => rfl

end Subject

/-! ### Changes of two windows -/

section Commuting

variable {model : Model} {bar : Bar} {snapshot : Snapshot} {change other : WindowChange}
  {subject otherSubject : String}

/-- Which workspace a change makes urgent does not hang on a change of another window. -/
theorem marks?_applyWindowChange (sound : model.Sound) (addressed : change.IsAddressed)
    (about : change.subject? = some subject) (aboutOther : other.subject? = some otherSubject)
    (apart : otherSubject ≠ subject) :
    (model.applyWindowChange bar snapshot change).marks? snapshot other =
      model.marks? snapshot other := by
  refine marks?_of_outline sound.identified (outline_applyWindowChange ..) snapshot ?_
  rintro address rfl
  obtain rfl := Option.some.inj aboutOther
  exact congrArg Holding.owner (holding_applyWindowChange sound.owned bar snapshot addressed
    (touches_of_subject? about apart) (unfocused_of_subject? about))

/-- After two changes every window is where one of them leads from where the other one does. -/
theorem locates_applyWindowChange_applyWindowChange (sound : model.Sound) (bar : Bar)
    (snapshot : Snapshot) (addressed : change.IsAddressed) (otherAddressed : other.IsAddressed)
    (about : change.subject? = some subject) {address : String} {place : Place}
    (located : model.Locates address place) :
    ((model.applyWindowChange bar snapshot change).applyWindowChange bar snapshot other).Locates
      address (model.leads bar snapshot address
        (model.leads bar snapshot address place change) other) := by
  have first := locates_applyWindowChange sound bar snapshot addressed located
  have second := locates_applyWindowChange (sound.applyWindowChange bar snapshot addressed) bar
    snapshot otherAddressed first
  have focused := (focused_applyWindowChange bar snapshot model change).trans
    (focusAfter_of_subject? about model.focused)
  rwa [leads_of_outline sound.identified (outline_applyWindowChange ..) focused] at second

/-- Changes of two windows may change places. -/
theorem applyWindowChange_comm (sound : model.Sound) (attentive : model.Attentive)
    (addressed : change.IsAddressed) (otherAddressed : other.IsAddressed)
    (about : change.subject? = some subject) (aboutOther : other.subject? = some otherSubject)
    (apart : subject ≠ otherSubject) :
    (model.applyWindowChange bar snapshot change).applyWindowChange bar snapshot other =
      (model.applyWindowChange bar snapshot other).applyWindowChange bar snapshot change := by
  refine eq_of_attentive
    ((attentive.applyWindowChange bar snapshot change).applyWindowChange bar snapshot other)
    ((attentive.applyWindowChange bar snapshot other).applyWindowChange bar snapshot change)
    ?_ ?_ (fun address => ?_) ?_
  · simp only [outline_applyWindowChange]
  · refine funext fun key => ?_
    simp only [urgency_applyWindowChange,
      marks?_applyWindowChange sound addressed about aboutOther apart.symm,
      marks?_applyWindowChange sound otherAddressed aboutOther about apart]
    split <;> split <;> rfl
  · obtain ⟨place, located, -⟩ := sound.owned.located address
    have first := locates_applyWindowChange_applyWindowChange sound bar snapshot addressed
      otherAddressed about located
    have second := locates_applyWindowChange_applyWindowChange sound bar snapshot otherAddressed
      addressed aboutOther located
    -- One of the two changes leads the window from its place to its place.
    have same : model.leads bar snapshot address
        (model.leads bar snapshot address place change) other =
        model.leads bar snapshot address
          (model.leads bar snapshot address place other) change := by
      by_cases here : address = subject
      · have elsewhere : address ≠ otherSubject := here ▸ apart
        rw [leads_of_subject? aboutOther bar snapshot model elsewhere,
          leads_of_subject? aboutOther bar snapshot model elsewhere]
      · rw [leads_of_subject? about bar snapshot model here,
          leads_of_subject? about bar snapshot model here]
    rw [same] at first
    exact first.trans second.symm
  · simp only [focused_applyWindowChange, focusAfter_of_subject? about,
      focusAfter_of_subject? aboutOther]

end Commuting

end Model

/-! ### Ticks -/

namespace Tracker

/-- What the bar knows in the middle of a tick that carries on, when the work on workspaces has been
done and some changes of windows have been carried out. -/
def midway (snapshot : Snapshot) (done : List WindowChange) (tracker : Tracker) : Model :=
  ((((tracker.model.removeDestroyed snapshot tracker.backlog.workspaces).applyChanges tracker.bar
    snapshot tracker.backlog.workspaces).align tracker.bar snapshot
      (tracker.backlog.workspaces.filterMap Model.destroyedName?)).addAllDeclared
        tracker.bar).applyWindowChanges tracker.bar snapshot done

theorem midway_append (snapshot : Snapshot) (done : List WindowChange) (change : WindowChange)
    (tracker : Tracker) :
    tracker.midway snapshot (done ++ [change]) =
      (tracker.midway snapshot done).applyWindowChange tracker.bar snapshot change :=
  List.foldl_append

theorem catchUp_eq (snapshot : Snapshot) (tracker : Tracker) :
    catchUp tracker.bar snapshot tracker.backlog tracker.model =
      (tracker.midway snapshot tracker.backlog.windows).growOrphans tracker.bar
        tracker.model.orphans.keys := rfl

theorem sound_midway {tracker : Tracker} (sound : tracker.model.Sound) {snapshot : Snapshot}
    (snapshotAddressed : snapshot.IsAddressed) {done : List WindowChange}
    (doneAddressed : ∀ change ∈ done, change.IsAddressed) :
    (tracker.midway snapshot done).Sound :=
  (sound.beforeWindowChanges snapshotAddressed tracker.bar
    tracker.backlog.workspaces).applyWindowChanges tracker.bar snapshot doneAddressed

theorem attentive_midway {tracker : Tracker} (attentive : tracker.model.Attentive)
    (snapshot : Snapshot) (done : List WindowChange) :
    (tracker.midway snapshot done).Attentive :=
  ((Model.Attentive.stepwise tracker.bar snapshot).beforeWindowChanges tracker.backlog.workspaces
    tracker.model attentive).applyWindowChanges tracker.bar snapshot done

/-- After every run with addresses as the compositor writes them, in the middle of a tick, a change
of one window leaves everything that is held about another window as it is, and the workspaces with
their keys, ids, names and outputs. It leads to the same model whether it comes before a change of
another window or after it. -/
theorem local_midway [Pattern.Engine] (config : BarConfig) {inputs : List Input}
    (addressed : AreAddressed inputs)
    {snapshot : Snapshot} (snapshotAddressed : snapshot.IsAddressed) {done : List WindowChange}
    (doneAddressed : ∀ change ∈ done, change.IsAddressed) (reports : Snapshot)
    {change other : WindowChange} (changeAddressed : change.IsAddressed)
    (otherAddressed : other.IsAddressed) {subject otherSubject : String}
    (about : change.subject? = some subject) (aboutOther : other.subject? = some otherSubject)
    (apart : subject ≠ otherSubject) :
    let bar := Bar.ofConfig config
    let model := (run config inputs).midway snapshot done
    let after := model.applyWindowChange bar reports change
    (∀ address, address ≠ subject → after.holding address = model.holding address) ∧
      after.outline = model.outline ∧
      after.applyWindowChange bar reports other =
        (model.applyWindowChange bar reports other).applyWindowChange bar reports change := by
  intro bar model after
  have sound : model.Sound :=
    sound_midway (sound_run config addressed).1 snapshotAddressed doneAddressed
  refine ⟨fun address different => ?_, Model.outline_applyWindowChange bar reports model change, ?_⟩
  · exact Model.holding_applyWindowChange sound.owned bar reports changeAddressed
      (Model.touches_of_subject? about different) (Model.unfocused_of_subject? about)
  · exact Model.applyWindowChange_comm sound
      (attentive_midway (Model.attentive_run config inputs) snapshot done) changeAddressed
      otherAddressed about aboutOther apart

/-- A window is moved to where another one waits, and that one is opened again where the first one
has been. -/
theorem local_midway_sampleRun :
    AreAddressed sampleRun ∧ sampleSnapshot.IsAddressed ∧
      (∀ change ∈ [WindowChange.urgent "ab"], change.IsAddressed) ∧
      (WindowChange.moved "cd" "2").IsAddressed ∧
      (WindowChange.opened "ab" "1" "editor" "notes").IsAddressed ∧
      (WindowChange.moved "cd" "2").subject? = some "cd" ∧
      (WindowChange.opened "ab" "1" "editor" "notes").subject? = some "ab" ∧ "cd" ≠ "ab" ∧
      let model := (run {} sampleRun).midway sampleSnapshot [.urgent "ab"]
      let move : Model → Model := fun model =>
        model.applyWindowChange (Bar.ofConfig {}) sampleSnapshot (.moved "cd" "2")
      let reopen : Model → Model := fun model =>
        model.applyWindowChange (Bar.ofConfig {}) sampleSnapshot
          (.opened "ab" "1" "editor" "notes")
      (move model).holding "ab" = model.holding "ab" ∧ (move model).outline = model.outline ∧
        reopen (move model) = move (reopen model) := by
  have marked : ∀ change ∈ [WindowChange.urgent "ab"], change.IsAddressed := by
    intro change member address spoken
    rw [List.mem_singleton.mp member] at spoken
    rw [← Option.some.inj spoken]
    exact isAddress_announced
  have moved : (WindowChange.moved "cd" "2").IsAddressed := by
    intro address spoken
    rw [← Option.some.inj spoken]
    exact isAddress_plain
  have opened : (WindowChange.opened "ab" "1" "editor" "notes").IsAddressed := by
    intro address spoken
    rw [← Option.some.inj spoken]
    exact isAddress_announced
  obtain ⟨kept, outlined, swapped⟩ := local_midway {} areAddressed_sampleRun
    isAddressed_sampleSnapshot marked sampleSnapshot moved opened
      (show WindowChange.subject? _ = some "cd" by decide)
      (show WindowChange.subject? _ = some "ab" by decide) (by decide)
  exact ⟨areAddressed_sampleRun, isAddressed_sampleSnapshot, marked, moved, opened, by decide,
    by decide, by decide, kept "ab" (by decide), outlined, swapped⟩

end Tracker

end Deskbar
