/-
This file says what a bar shows of the focus. What is known about it is written down in three
places: the model has the address of the window with the focus, a workspace the address of such a
window of its own, and a window that waits whether it is the one. After every tick the three agree,
and since a window has one owner, one workspace at most has a window with the focus.

The address of the window with the focus is plain after every run with addresses as the compositor
writes them, so that the index has it as it is. The work on workspaces and windows leaves it alone;
it is changed by announcements only, and by a snapshot that has a window with the focus.
-/

import Deskbar.Proofs.Audit
import Deskbar.Proofs.Locality
import Deskbar.Proofs.Reload

namespace Deskbar

/-- A workspace that knows which window has the focus has the text of that window, if it is here. -/
theorem Workspace.KnowsFocus.focusedText?_eq {workspace : Workspace} {focused : Option String}
    (knows : workspace.KnowsFocus focused) :
    workspace.focusedText? = focused.bind workspace.windows.get? := by
  rw [focusedText?, show workspace.focused = _ from knows]
  cases focused with
  | none => rfl
  | some address =>
    rw [Option.filter_some, Option.bind_some, holds, SortedMap.contains]
    cases found : workspace.windows.get? address with
    | none => rfl
    | some text => exact found

namespace Model

/-! ### The focus in the work on workspaces -/

section Work

variable {model : Model}

theorem focused_claim (bar : Bar) (key : Nat) (model : Model) :
    (model.claim bar key).focused = model.focused := by
  rw [claim]
  split
  · rfl
  · refine foldl_view focused (fun next address => ?_) _ model
    rw [claimOne]
    split
    · rfl
    · exact focused_place ..

theorem focused_gather (bar : Bar) (snapshot : Snapshot) (key : Nat) (id : Int) (model : Model) :
    (model.gather bar snapshot key id).focused = model.focused := by
  refine foldl_view focused (fun next report => ?_) _ model
  rw [gatherOne]
  split
  · rfl
  · exact focused_place ..

theorem focused_remove (snapshot : Snapshot) (key : Nat) (model : Model) :
    (model.remove snapshot key).focused = model.focused := by
  cases present : model.workspaces.get? key with
  | none => rw [remove_of_absent snapshot present]
  | some workspace =>
    rw [remove_eq snapshot present, foldl_view focused (focused_abandon snapshot), withoutWindows]
    split <;> rfl

theorem focused_ensure (bar : Bar) (snapshot : Snapshot) (report : ReportedWorkspace)
    (model : Model) : (model.ensure bar snapshot report).focused = model.focused := by
  rw [ensure]
  split
  · split
    · split
      · exact focused_claim ..
      · exact (focused_claim ..).trans (focused_gather ..)
    · exact (focused_claim ..).trans (focused_gather ..)
  · rfl

/-- The work on workspaces leaves the focus where it is. -/
theorem stepwise_focused (bar : Bar) (snapshot : Snapshot) :
    Stepwise bar snapshot fun before after => after.focused = before.focused where
  refl _ := rfl
  trans earlier later := later.trans earlier
  replace _ _ _ _ _ := rfl
  claim model key := focused_claim bar key model
  remove model key := focused_remove snapshot key model
  ensure model report := focused_ensure bar snapshot report model
  declare model raw := by
    rw [addDeclared]
    dsimp only
    split <;> rfl

theorem focused_startOver (bar : Bar) (snapshot : Snapshot) (model : Model) :
    (model.startOver bar snapshot).focused = model.focused :=
  ((stepwise_focused bar snapshot).addAllDeclared _).trans
    ((stepwise_focused bar snapshot).align [] _)

end Work

/-! ### Plain addresses -/

/-- The address of the window with the focus has no lead. -/
def FocusIsPlain (model : Model) : Prop :=
  ∀ address, model.focused = some address → plainAddress address = address

section FocusIsPlain

variable {model : Model} {bar : Bar} {snapshot : Snapshot}

theorem FocusIsPlain.of_focused {next : Model} (plain : model.FocusIsPlain)
    (same : next.focused = model.focused) : next.FocusIsPlain :=
  fun address focused => plain address (same.symm.trans focused)

theorem FocusIsPlain.applyWindowChange (plain : model.FocusIsPlain) {change : WindowChange}
    (addressed : change.IsAddressed) :
    (model.applyWindowChange bar snapshot change).FocusIsPlain := by
  intro address focused
  rw [focused_applyWindowChange] at focused
  cases change with
  | focused other =>
    obtain ⟨announced, rfl, rfl⟩ := Option.map_eq_some_iff.mp focused
    exact (addressed announced rfl).plainAddress_plainAddress
  | _ => exact plain address focused

theorem FocusIsPlain.observe (plain : model.FocusIsPlain) (addressed : snapshot.IsAddressed)
    (bar : Bar) : (model.observe bar snapshot).FocusIsPlain := by
  intro address focused
  rw [focused_observe] at focused
  rcases Option.or_eq_some_iff.mp focused with reported | ⟨-, kept⟩
  · obtain ⟨report, found, rfl⟩ := Option.map_eq_some_iff.mp reported
    exact (addressed report (List.mem_of_find?_eq_some found)).plainAddress_plainAddress
  · exact plain address kept

theorem FocusIsPlain.nextModel {tracker : Tracker} (plain : tracker.model.FocusIsPlain)
    (addressed : snapshot.IsAddressed)
    (waiting : ∀ change ∈ tracker.backlog.windows, change.IsAddressed) :
    (tracker.nextModel snapshot).FocusIsPlain := by
  cases startsOver : tracker.startsOver with
  | true =>
    rw [Tracker.nextModel_of_startsOver startsOver]
    exact (plain.of_focused (focused_startOver ..)).observe addressed tracker.bar
  | false =>
    rw [Tracker.nextModel_of_not_startsOver startsOver, Tracker.catchUp_eq]
    have worked : (tracker.midway snapshot []).FocusIsPlain :=
      plain.of_focused ((stepwise_focused tracker.bar snapshot).beforeWindowChanges
        tracker.backlog.workspaces tracker.model)
    have changed : (tracker.midway snapshot tracker.backlog.windows).FocusIsPlain :=
      List.foldlRecOn _ _ worked fun _ kept change member =>
        kept.applyWindowChange (waiting change member)
    exact (changed.of_focused (focused_growOrphans ..)).observe addressed tracker.bar

end FocusIsPlain

/-- At the end of every run with addresses as the compositor writes them the address of the window
with the focus has no lead. -/
theorem focusIsPlain_run [Pattern.Engine] (config : BarConfig) {inputs : List Tracker.Input}
    (addressed : Tracker.AreAddressed inputs) : (Tracker.run config inputs).model.FocusIsPlain := by
  induction inputs using List.reverseRecOn with
  | nil => exact fun address focused => by cases focused
  | append_singleton before input inductionHypothesis =>
    have earlier : Tracker.AreAddressed before :=
      fun input member => addressed input (List.mem_append_left _ member)
    rw [Tracker.run_append]
    cases input with
    | event event => exact inductionHypothesis earlier
    | snapshot snapshot =>
      exact (inductionHypothesis earlier).nextModel
        (addressed.snapshot (List.mem_append_right _ List.mem_cons_self))
        (Tracker.sound_run config earlier).2

/-! ### Agreement about the focus -/

section Agreement

variable {model : Model}

/-- A workspace has a text of the window with the focus exactly if it is the owner of that
window. -/
theorem isSome_focusedText?_iff (owned : model.Owned) (attentive : model.Attentive)
    (plain : model.FocusIsPlain) {key : Nat} {workspace : Workspace}
    (present : model.workspaces.get? key = some workspace) :
    workspace.focusedText?.isSome = true ↔
      ∃ address, model.focused = some address ∧
        model.ownerOf? address = some (.workspace key) := by
  rw [(attentive.workspaces present).focusedText?_eq, Option.isSome_iff_exists]
  simp only [Option.bind_eq_some_iff]
  constructor
  · rintro ⟨text, address, focused, shown⟩
    refine ⟨address, focused, ?_⟩
    rw [ownerOf?, plain address focused, owned.singlyOwned.shown address key]
    exact ⟨text, (textOn?_of_get? present address).trans shown⟩
  · rintro ⟨address, focused, owner⟩
    rw [ownerOf?, plain address focused, owned.singlyOwned.shown address key] at owner
    obtain ⟨text, shown⟩ := owner
    exact ⟨text, address, focused, (textOn?_of_get? present address).symm.trans shown⟩

end Agreement

end Model

/-! ### Ticks and runs -/

namespace Tracker

/-- After every run with addresses as the compositor writes them and a tick, everyone agrees about
the focus. A workspace shows a text as that of the window with the focus exactly if the index has
that window on it, and it is the text that the workspace has for the window, so one workspace at
most shows one. A window that waits has the focus exactly if its address is the one that has it. And
that is the address of the first window that the snapshot reports with the focus, if there is one,
whatever has been announced. -/
theorem focus_tick [Pattern.Engine] (config : BarConfig) {inputs : List Input}
    (addressed : AreAddressed inputs)
    {snapshot : Snapshot} (snapshotAddressed : snapshot.IsAddressed) :
    let after := ((run config inputs).tick snapshot).model
    (∀ key workspace, after.workspaces.get? key = some workspace →
      (workspace.focusedText?.isSome = true ↔
        ∃ address, after.focused = some address ∧
          after.ownerOf? address = some (.workspace key)) ∧
      ∀ text, workspace.focusedText? = some text →
        ∃ address, after.focused = some address ∧ workspace.windows.get? address = some text) ∧
    (∀ first second one other, after.workspaces.get? first = some one →
      after.workspaces.get? second = some other → one.focusedText?.isSome = true →
        other.focusedText?.isSome = true → first = second) ∧
    (∀ address window, after.orphans.get? address = some window →
      window.address = address ∧ (window.active = true ↔ after.focused = some address)) ∧
    ∀ report, snapshot.windows.find? ReportedWindow.hasFocus = some report →
      after.focused = some (plainAddress report.address) := by
  intro after
  obtain ⟨sound, waiting⟩ := sound_run config addressed
  have owned : after.Owned := (sound.nextModel snapshotAddressed waiting).owned
  have attentive : after.Attentive := Model.attentive_shareFocus _
  have plain : after.FocusIsPlain :=
    (Model.focusIsPlain_run config addressed).nextModel snapshotAddressed waiting
  refine ⟨fun key workspace present => ⟨?_, fun text shown => ?_⟩, ?_, ?_, ?_⟩
  · exact Model.isSome_focusedText?_iff owned attentive plain present
  · rw [(attentive.workspaces present).focusedText?_eq] at shown
    exact Option.bind_eq_some_iff.mp shown
  · intro first second one other present otherPresent shows otherShows
    obtain ⟨address, focused, owner⟩ :=
      (Model.isSome_focusedText?_iff owned attentive plain present).mp shows
    obtain ⟨otherAddress, otherFocused, otherOwner⟩ :=
      (Model.isSome_focusedText?_iff owned attentive plain otherPresent).mp otherShows
    obtain rfl := Option.some.inj (focused.symm.trans otherFocused)
    exact Owner.workspace.inj (Option.some.inj (owner.symm.trans otherOwner))
  · intro address window waits
    refine ⟨(owned.waiting waits).2.1, ?_⟩
    rw [attentive.orphans waits, Model.hasFocusOn, decide_eq_true_iff]
  · intro report found
    refine (Model.focused_observe ..).trans ?_
    rw [Snapshot.focusedAddress?, found, Option.map_some, Option.some_or]

/-- A run in which the focus is announced to be on a window that waits. -/
def distractedRun : List Input := sampleRun ++ [.event (.window (.focused (some "ab")))]

/-- The snapshot has another window with the focus, and its workspace shows it. -/
theorem focus_tick_distractedRun :
    let after := ((run {} distractedRun).tick focusedSnapshot).model
    AreAddressed distractedRun ∧ focusedSnapshot.IsAddressed ∧ after.focused = some "cd" ∧
      (∃ workspace, after.workspaces.get? 1 = some workspace ∧
        workspace.focusedText?.isSome = true) ∧
      ∃ window, after.orphans.get? "ab" = some window ∧ ¬window.active = true := by
  intro after
  have addressed : AreAddressed distractedRun := by
    intro input member
    rcases List.mem_append.mp member with earlier | last
    · exact areAddressed_sampleRun input earlier
    · rw [List.mem_singleton.mp last]
      intro address spoken
      rw [List.mem_singleton.mp spoken]
      exact isAddress_announced
  have snapshotAddressed : focusedSnapshot.IsAddressed := by
    intro report member
    rw [List.mem_singleton.mp member]
    exact isAddress_reported
  obtain ⟨workspaces, -, orphans, reported⟩ := focus_tick {} addressed snapshotAddressed
  have listed : focusedSnapshot.windows.find? ReportedWindow.hasFocus = some
      { address := "0xcd", windowClass := "term", workspace := ⟨1, "1"⟩, focusRank := 0 } := by
    decide
  have focused : after.focused = some "cd" := (reported _ listed).trans (by decide)
  obtain ⟨workspace, present⟩ := Option.isSome_iff_exists.mp
    (show (after.workspaces.get? 1).isSome = true by decide)
  obtain ⟨window, waits⟩ := Option.isSome_iff_exists.mp
    (show (after.orphans.get? "ab").isSome = true by decide)
  refine ⟨addressed, snapshotAddressed, focused, ⟨workspace, present, ?_⟩, window, waits, ?_⟩
  · exact (workspaces 1 workspace present).1.mpr ⟨"cd", focused, by decide⟩
  · rw [(orphans "ab" window waits).2, focused]
    decide

end Tracker

end Deskbar
