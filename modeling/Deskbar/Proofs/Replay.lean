/-
This file shows what a change of a window does that is carried out twice in a row. Once it has taken
a window somewhere it finds the window where it would take it, so the second time nothing happens.

There is one exception. A workspace leaves out a window without class and title or without a text,
and a move to such a workspace then drops the window. The second move does not know it any longer
and takes it from the reports, where it may have something to show.
-/

import Deskbar.Proofs.Keeping
import Deskbar.Proofs.Locality

namespace Deskbar

/-! ### Windows that stay where they were taken -/

theorem Place.retitled_retitled (rewriter : Rewriter) (report? : Option ReportedWindow)
    (title : Option String) (place : Place) :
    (place.retitled rewriter report? title).retitled rewriter report? title =
      place.retitled rewriter report? title := by
  cases place with
  | nowhere => rfl
  | shown key text =>
    cases report? with
    | none => rfl
    | some report => rfl
  | waiting window =>
    rw [retitled, retitled]
    cases title.or (report?.map ReportedWindow.title) with
    | none => rfl
    | some replacement =>
      cases known : window.appearance with
      | resolved text => simp only [Option.bind_some, Window.retitle?, known, Option.getD_none]
      | identity windowClass former =>
        simp only [Option.bind_some, Window.retitle?, known, Option.getD_some]

theorem Place.told_told (active : Bool) (place : Place) :
    (place.told active).told active = place.told active := by
  cases place <;> rfl

theorem Window.isLeftOut_ofText (rewriter : Rewriter) (workspace address text : String) :
    (ofText workspace address text).isLeftOut rewriter = text.isEmpty := Bool.false_or _

namespace Model

section Destination

variable {bar : Bar} {model : Model}

theorem destination_of_meant {window : Window} {key : Nat}
    (meant : model.meant? window.workspace = some key) :
    model.destination bar window = window.placeOn bar.rewriter key := by rw [destination, meant]

theorem destination_of_unmeant {window : Window}
    (unmeant : model.meant? window.workspace = none) :
    model.destination bar window =
      .waiting (window.withFocus (model.hasFocusOn window.address)) := by rw [destination, unmeant]

/-- An opened window is where it was opened, unless it was left out. -/
theorem repeats_destination (bar : Bar) (model : Model) (window : Window) :
    model.destination bar window = .nowhere ∨
      (model.destination bar window).repeats window (model.meant? window.workspace) = true := by
  cases meant : model.meant? window.workspace with
  | none =>
    rw [destination_of_unmeant meant]
    exact Or.inr (decide_eq_true rfl)
  | some key =>
    rw [destination_of_meant meant, Window.placeOn]
    split
    · exact Or.inl rfl
    · exact Or.inr (decide_eq_true rfl)

/-- A window is dropped by the workspace it is given to when that one leaves it out. -/
theorem destination_eq_nowhere_iff {window : Window} :
    model.destination bar window = .nowhere ↔
      (model.meant? window.workspace).isSome = true ∧ window.isLeftOut bar.rewriter = true := by
  cases meant : model.meant? window.workspace with
  | none =>
    rw [destination_of_unmeant meant]
    exact iff_of_false (fun same => by cases same) fun both => by cases both.1
  | some key =>
    rw [destination_of_meant meant, Window.placeOn]
    split
    · next leftOut => exact iff_of_true rfl ⟨rfl, leftOut⟩
    · next shown => exact iff_of_false (fun same => by cases same) fun both => shown both.2

/-- A window that was sent to a workspace and not left out goes nowhere else when it is sent there
again. -/
theorem destination_sent? {window : Window} {target : String}
    (refers : window.workspace = workspaceReference target)
    (arrived : model.destination bar window ≠ .nowhere) :
    ∃ sent, (model.destination bar window).sent? window.address target = some sent ∧
      model.destination bar sent = model.destination bar window := by
  cases meant : model.meant? window.workspace with
  | none =>
    rw [destination_of_unmeant meant]
    refine ⟨window.withFocus (model.hasFocusOn window.address), ?_, ?_⟩
    · rw [Place.sent?, Window.sendTo, ← refers]
      rfl
    · exact destination_of_unmeant meant
  | some key =>
    have shown : window.isLeftOut bar.rewriter = false := by
      rw [← Bool.not_eq_true]
      intro leftOut
      refine arrived (destination_eq_nowhere_iff.mpr ⟨?_, leftOut⟩)
      rw [meant, Option.isSome_some]
    have visible : (window.text bar.rewriter).isEmpty = false := by
      rw [Window.isLeftOut, Bool.or_eq_false_iff] at shown
      exact shown.2
    rw [destination_of_meant meant, Window.placeOn, shown]
    refine ⟨Window.ofText target window.address (window.text bar.rewriter), rfl, ?_⟩
    have meantToo : model.meant? (Window.ofText target window.address
        (window.text bar.rewriter)).workspace = some key := by
      rw [← meant, refers]
      rfl
    rw [destination_of_meant meantToo, Window.placeOn, Window.isLeftOut_ofText, visible]
    rfl

end Destination

/-! ### Windows that come back -/

/-- Whether a second move brings back a window that the first one drops: there is a workspace for
it, which leaves out the window as it is known, and not as it is reported. -/
def Resurfaces (bar : Bar) (snapshot : Snapshot) (model : Model) : WindowChange → Prop
  | .moved address target =>
    (model.meant? (workspaceReference target)).isSome = true ∧
      (∃ window, (model.withdraw (plainAddress address)).1 = some window ∧
        window.isLeftOut bar.rewriter = true) ∧
      ∃ report, snapshot.window? (plainAddress address) = some report ∧
        bar.rewriter.shows report.windowClass report.title = true
  | _ => False

section Twice

variable {bar : Bar} {snapshot : Snapshot} {model : Model} {address target : String} {place : Place}

theorem workspace_of_movedWindow? {window : Window}
    (moved : movedWindow? snapshot address target place = some window) :
    window.workspace = workspaceReference target := by
  rcases Option.or_eq_some_iff.mp moved with sent | ⟨-, reported⟩
  · cases place with
    | nowhere => cases sent
    | waiting waiting => rw [← Option.some.inj sent, Window.sendTo]
    | shown key text => rw [← Option.some.inj sent, Window.ofText, Window.appearing]
  · obtain ⟨report, -, rfl⟩ := Option.map_eq_some_iff.mp reported
    rfl

/-- A window that is not dropped by a move is where it was moved to. -/
theorem takes_moved_of_arrived {window : Window} (named : window.address = plainAddress address)
    (refers : window.workspace = workspaceReference target)
    (arrived : model.destination bar window ≠ .nowhere) :
    model.takes bar snapshot (model.destination bar window) (.moved address target) =
      model.destination bar window := by
  obtain ⟨sent, taken, same⟩ := destination_sent? refers arrived
  rw [takes, movedWindow?, ← named, taken]
  exact same

/-- A window that was dropped by a move stays nowhere, unless it resurfaces. -/
theorem takes_moved_of_dropped (located : model.Locates (plainAddress address) place)
    (gone : ¬model.Resurfaces bar snapshot (.moved address target)) {window : Window}
    (moved : movedWindow? snapshot (plainAddress address) target place = some window)
    (dropped : model.destination bar window = .nowhere) :
    model.takes bar snapshot .nowhere (.moved address target) = .nowhere := by
  obtain ⟨there, leftOut⟩ := destination_eq_nowhere_iff.mp dropped
  rw [workspace_of_movedWindow? moved] at there
  rw [takes, movedWindow?, Place.sent?, Option.none_or]
  cases reported : snapshot.window? (plainAddress address) with
  | none => rfl
  | some report =>
    refine destination_eq_nowhere_iff.mpr ⟨there, ?_⟩
    rw [Window.isLeftOut_ofIdentity, Bool.not_eq_true', ← Bool.not_eq_true]
    intro shows
    rw [movedWindow?, reported, ← map_sendTo_withdraw located] at moved
    rcases Option.or_eq_some_iff.mp moved with sent | ⟨-, same⟩
    · obtain ⟨origin, taken, rfl⟩ := Option.map_eq_some_iff.mp sent
      exact gone ⟨there, ⟨origin, taken, leftOut⟩, report, reported, shows⟩
    · rw [← Option.some.inj same, Window.isLeftOut_ofIdentity, shows] at leftOut
      cases leftOut

/-- A change leaves a window where it has taken it, unless the window resurfaces. -/
theorem takes_takes (owned : model.Owned) {change : WindowChange} (addressed : change.IsAddressed)
    (touched : change.touches address = true) (located : model.Locates address place)
    (gone : ¬model.Resurfaces bar snapshot change) :
    model.takes bar snapshot (model.takes bar snapshot place change) change =
      model.takes bar snapshot place change := by
  cases change with
  | opened other target windowClass title =>
    let window := Window.ofIdentity target other windowClass title
    by_cases replayed : place.repeats window (model.meant? window.workspace) = true
    · have kept : model.takes bar snapshot place (.opened other target windowClass title) =
          place := if_pos replayed
      rw [kept, kept]
    · have taken : model.takes bar snapshot place (.opened other target windowClass title) =
          model.destination bar window := if_neg replayed
      rw [taken]
      rcases repeats_destination bar model window with dropped | repeated
      · rw [dropped]
        exact dropped
      · exact if_pos repeated
  | closed other => rfl
  | moved other target =>
    obtain rfl : plainAddress other = address := of_decide_eq_true touched
    cases moved : movedWindow? snapshot (plainAddress other) target place with
    | none =>
      have reported := (Option.or_eq_none_iff.mp moved).2
      rw [takes, takes, moved]
      dsimp only
      rw [movedWindow?, reported]
      rfl
    | some window =>
      have taken : model.takes bar snapshot place (.moved other target) =
          model.destination bar window := by rw [takes, moved]
      rw [taken]
      by_cases dropped : model.destination bar window = .nowhere
      · rw [dropped]
        exact takes_moved_of_dropped located gone moved dropped
      · exact takes_moved_of_arrived (address_of_movedWindow? owned located
          (addressed other rfl).plainAddress_plainAddress moved)
          (workspace_of_movedWindow? moved) dropped
  | retitled other title => exact Place.retitled_retitled ..
  | urgent other => rfl
  | focused other => rfl

theorem leads_leads (owned : model.Owned) {change : WindowChange} (addressed : change.IsAddressed)
    (located : model.Locates address place) (gone : ¬model.Resurfaces bar snapshot change) :
    model.leads bar snapshot address (model.leads bar snapshot address place change) change =
      model.leads bar snapshot address place change := by
  simp only [leads]
  split
  · next touched => exact takes_takes owned addressed touched located gone
  · cases change with
    | focused focused => exact Place.told_told ..
    | _ => rfl

end Twice

/-! ### Changes that are carried out twice -/

section Repeated

variable {bar : Bar} {snapshot : Snapshot} {model : Model} {change : WindowChange}

/-- A change reads in the model that it has left what it has read before. -/
theorem leads_applyWindowChange (identified : model.Identified) (address : String)
    (place : Place) :
    (model.applyWindowChange bar snapshot change).leads bar snapshot address place change =
      model.leads bar snapshot address place change := by
  have outlined := outline_applyWindowChange bar snapshot model change
  have focused := focused_applyWindowChange bar snapshot model change
  cases change with
  | focused other => rfl
  | _ => exact leads_of_outline identified outlined focused bar snapshot address place _

/-- A change that is carried out twice marks the same workspace both times. -/
theorem marks?_applyWindowChange_self (identified : model.Identified) :
    (model.applyWindowChange bar snapshot change).marks? snapshot change =
      model.marks? snapshot change := by
  refine marks?_of_outline identified (outline_applyWindowChange ..) snapshot ?_
  rintro address rfl
  exact congrArg Holding.owner (holding_markUrgent model snapshot _ _)

theorem applyWindowChange_applyWindowChange (sound : model.Sound) (attentive : model.Attentive)
    (addressed : change.IsAddressed) (gone : ¬model.Resurfaces bar snapshot change) :
    (model.applyWindowChange bar snapshot change).applyWindowChange bar snapshot change =
      model.applyWindowChange bar snapshot change := by
  have once := attentive.applyWindowChange bar snapshot change
  refine eq_of_attentive (once.applyWindowChange bar snapshot change) once
    (outline_applyWindowChange ..) ?_ (fun address => ?_) ?_
  · refine funext fun key => ?_
    simp only [urgency_applyWindowChange, marks?_applyWindowChange_self sound.identified]
    split
    · rw [Option.map_map]
      rfl
    · rfl
  · obtain ⟨place, located, -⟩ := sound.owned.located address
    have first := locates_applyWindowChange sound bar snapshot addressed located
    have second := locates_applyWindowChange (sound.applyWindowChange bar snapshot addressed) bar
      snapshot addressed first
    rw [leads_applyWindowChange sound.identified,
      leads_leads sound.owned addressed located gone] at second
    exact second.trans first.symm
  · rw [focused_applyWindowChange, focused_applyWindowChange]
    cases change <;> rfl

/-- A window that resurfaces is shown after the second move and not after the first one. -/
theorem applyWindowChange_ne_of_resurfaces (sound : model.Sound) (addressed : change.IsAddressed)
    (resurfaces : model.Resurfaces bar snapshot change) :
    (model.applyWindowChange bar snapshot change).applyWindowChange bar snapshot change ≠
      model.applyWindowChange bar snapshot change := by
  cases change with
  | moved address target =>
    obtain ⟨there, ⟨window, taken, leftOut⟩, report, reported, shows⟩ := resurfaces
    obtain ⟨place, located, -⟩ := sound.owned.located (plainAddress address)
    have first := locates_applyWindowChange sound bar snapshot addressed located
    have second := locates_applyWindowChange (sound.applyWindowChange bar snapshot addressed) bar
      snapshot addressed first
    rw [leads_applyWindowChange sound.identified] at second
    have touched : (WindowChange.moved address target).touches (plainAddress address) = true :=
      decide_eq_true rfl
    have moved : movedWindow? snapshot (plainAddress address) target place =
        some (window.sendTo target) := by
      rw [movedWindow?, ← map_sendTo_withdraw located, taken]
      rfl
    have dropped : model.leads bar snapshot (plainAddress address) place (.moved address target) =
        .nowhere := by
      rw [leads, if_pos touched, takes, moved]
      exact destination_eq_nowhere_iff.mpr ⟨there, leftOut⟩
    rw [dropped] at first second
    intro same
    rw [same] at second
    -- A window that the reports have something to show for is not left out.
    have back := second.unique first
    rw [leads, if_pos touched, takes, movedWindow?, Place.sent?, Option.none_or, reported] at back
    have hidden := (destination_eq_nowhere_iff.mp back).2
    rw [Window.isLeftOut_ofIdentity, shows] at hidden
    cases hidden
  | _ => cases resurfaces

end Repeated

end Model

/-! ### Ticks -/

namespace Tracker

/-- After every run with addresses as the compositor writes them, in the middle of a tick, a change
of a window that is carried out twice in a row does the same as one that is carried out once, unless
it is a move that drops a window which the reports have something to show for. -/
theorem repeated_midway [Pattern.Engine] (config : BarConfig) {inputs : List Input}
    (addressed : AreAddressed inputs)
    {snapshot : Snapshot} (snapshotAddressed : snapshot.IsAddressed) {done : List WindowChange}
    (doneAddressed : ∀ change ∈ done, change.IsAddressed) (reports : Snapshot)
    {change : WindowChange} (changeAddressed : change.IsAddressed) :
    let bar := Bar.ofConfig config
    let model := (run config inputs).midway snapshot done
    let once := model.applyWindowChange bar reports change
    once.applyWindowChange bar reports change = once ↔ ¬model.Resurfaces bar reports change := by
  intro bar model once
  have sound : model.Sound :=
    sound_midway (sound_run config addressed).1 snapshotAddressed doneAddressed
  have attentive : model.Attentive :=
    attentive_midway (Model.attentive_run config inputs) snapshot done
  constructor
  · intro same resurfaces
    exact Model.applyWindowChange_ne_of_resurfaces sound changeAddressed resurfaces same
  · exact Model.applyWindowChange_applyWindowChange sound attentive changeAddressed

/-- A window that waits is moved twice to a workspace that is there. -/
theorem repeated_midway_sampleRun :
    AreAddressed sampleRun ∧ sampleSnapshot.IsAddressed ∧
      (∀ change ∈ ([] : List WindowChange), change.IsAddressed) ∧
      (WindowChange.moved "ab" "1").IsAddressed ∧
      let model := (run {} sampleRun).midway sampleSnapshot []
      let move : Model → Model := fun model =>
        model.applyWindowChange (Bar.ofConfig {}) sampleSnapshot (.moved "ab" "1")
      (move model).textOn? 1 "ab" = some "?" ∧ move (move model) = move model := by
  have none : ∀ change ∈ ([] : List WindowChange), change.IsAddressed :=
    fun change member => absurd member List.not_mem_nil
  have moved : (WindowChange.moved "ab" "1").IsAddressed := by
    intro address spoken
    rw [← Option.some.inj spoken]
    exact isAddress_announced
  refine ⟨areAddressed_sampleRun, isAddressed_sampleSnapshot, none, moved, by decide, ?_⟩
  refine (repeated_midway {} areAddressed_sampleRun isAddressed_sampleSnapshot none sampleSnapshot
    moved).mpr ?_
  rintro ⟨-, ⟨window, taken, leftOut⟩, -⟩
  have shown : (((run {} sampleRun).midway sampleSnapshot []).withdraw "ab").1.all (fun window =>
      !window.isLeftOut (Bar.ofConfig {}).rewriter) = true := by decide
  rw [show plainAddress "ab" = "ab" by decide] at taken
  rw [taken, Option.all_some, leftOut] at shown
  cases shown

/-- A window that has neither class nor title waits for a workspace that is not there. A move to one
that is there drops it, and when the same move comes again the window is shown as it is reported. -/
theorem not_repeated_nameless :
    AreAddressed [.snapshot sampleSnapshot] ∧ sampleSnapshot.IsAddressed ∧
      (∀ change ∈ [WindowChange.opened "cd" "9" "" ""], change.IsAddressed) ∧
      (WindowChange.moved "cd" "1").IsAddressed ∧
      let model := (run {} [.snapshot sampleSnapshot]).midway sampleSnapshot
        [.opened "cd" "9" "" ""]
      let move : Model → Model := fun model =>
        model.applyWindowChange (Bar.ofConfig {}) sampleSnapshot (.moved "cd" "1")
      (move model).owners.get? "cd" = none ∧
        (move (move model)).owners.get? "cd" = some (.workspace 1) ∧
        move (move model) ≠ move model := by
  have addressed : AreAddressed [.snapshot sampleSnapshot] := by
    simpa [AreAddressed, sampleSnapshot, Input.addresses] using isAddress_reported
  have opened : ∀ change ∈ [WindowChange.opened "cd" "9" "" ""], change.IsAddressed := by
    intro change member address spoken
    rw [List.mem_singleton.mp member] at spoken
    rw [← Option.some.inj spoken]
    exact isAddress_plain
  have moved : (WindowChange.moved "cd" "1").IsAddressed := by
    intro address spoken
    rw [← Option.some.inj spoken]
    exact isAddress_plain
  refine ⟨addressed, isAddressed_sampleSnapshot, opened, moved, ?_⟩
  intro model move
  have once : (move model).owners.get? "cd" = none := by decide
  have twice : (move (move model)).owners.get? "cd" = some (.workspace 1) := by decide
  refine ⟨once, twice, fun same => ?_⟩
  rw [same, once] at twice
  cases twice

end Tracker

end Deskbar
