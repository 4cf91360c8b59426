/-
This file shows where a window comes to rest that is opened. The tick that carries the change out
may have put the window on a workspace before, from the snapshot, but when the change is carried out
the window goes to the workspace that its reference means, and no other change of the tick moves it
again. When the snapshot and the change agree about class and title it is shown under their text.

A window refers to its workspace by the shown name up to the first space, and this reference is read
as a name again. Which workspace it means therefore hangs on what all the others are called: the
workspace whose raw name the change has told gets the window for certain only if no other one is
called or referred to like it.
-/

import Mathlib.Data.List.TakeWhile
import Deskbar.Proofs.Keeping

namespace Deskbar

/-! ### References -/

/-- A reference without a lead is its own reference. -/
theorem workspaceReference_workspaceReference {raw : String}
    (plain : shownName (workspaceReference raw) = workspaceReference raw) :
    workspaceReference (workspaceReference raw) = workspaceReference raw := by
  rw [workspaceReference, plain, workspaceReference, String.toList_ofList, List.takeWhile_idem]

/-! ### Places of an opened window -/

/-- Whether a window does not wait, and is shown under a text if it is shown. -/
def Place.ShowsOnly (text : String) : Place → Prop
  | .nowhere => True
  | .waiting _ => False
  | .shown _ other => other = text

/-- Whether a window is shown under a text on the workspace with a key, or waits when there is no
such workspace. -/
def Place.Lands (target : Option Nat) (text : String) : Place → Prop
  | .nowhere => False
  | .waiting _ => target = none
  | .shown key other => target = some key ∧ other = text

namespace Place

theorem showsOnly_placeOn (rewriter : Rewriter) (key : Nat) (window : Window) :
    (window.placeOn rewriter key).ShowsOnly (window.text rewriter) := by
  rw [Window.placeOn]
  split
  · trivial
  · exact rfl

theorem ShowsOnly.told {text : String} {before after : Place} (shows : before.ShowsOnly text)
    (told : before.Told after) : after.ShowsOnly text := by
  cases told with
  | stays => exact shows
  | told window active => exact shows

theorem Lands.told {target : Option Nat} {text : String} {before after : Place}
    (lands : before.Lands target text) (told : before.Told after) : after.Lands target text := by
  cases told with
  | stays => exact lands
  | told window active => exact lands

end Place

namespace Model

/-- On which workspace a window is shown that has landed, and under which text. -/
theorem Locates.textOn?_iff_of_lands {model : Model} {address text : String} {place : Place}
    {target : Option Nat} (located : model.Locates address place)
    (lands : place.Lands target text) (key : Nat) (shown : String) :
    model.textOn? key address = some shown ↔ target = some key ∧ shown = text := by
  rw [located.text key]
  cases place with
  | nowhere => cases lands
  | waiting window =>
    obtain rfl : target = none := lands
    simp [Place.holding]
  | shown other otherText =>
    obtain ⟨rfl, rfl⟩ : target = some other ∧ otherText = text := lands
    simp only [Place.holding, Option.ite_none_right_eq_some, Option.some.injEq,
      eq_comm (a := key), eq_comm (a := otherText)]

theorem Owned.locates_of_not_knows {model : Model} {address : String} (owned : model.Owned)
    (unknown : ¬model.Knows address) : model.Locates address .nowhere := by
  obtain ⟨place, located, -⟩ := owned.located address
  cases place with
  | nowhere => exact located
  | waiting window => exact absurd (Or.inr ⟨window, located.orphan⟩) unknown
  | shown key text =>
    exact absurd (Or.inl ⟨key, text, (located.text key).trans (if_pos rfl)⟩) unknown

/-! ### The tick until the window is opened -/

section Before

variable {model : Model} {snapshot : Snapshot} {bar : Bar} {address text : String} {place : Place}

/-- A window that does not wait is shown only under the text that the snapshot gives it. -/
theorem exists_showsOnly_ensure (sound : model.Sound) (addressed : snapshot.IsAddressed)
    (told : ∀ reported ∈ snapshot.windows, plainAddress reported.address = address →
      bar.rewriter.windowText reported.windowClass reported.title = text)
    (report : ReportedWorkspace) (located : model.Locates address place)
    (shows : place.ShowsOnly text) :
    ∃ next : Place, (model.ensure bar snapshot report).Locates address next ∧
      next.ShowsOnly text := by
  obtain ⟨next, here, rfl | ⟨key, workspace, -, -, -, enters⟩⟩ :=
    exists_locates_ensure sound addressed bar report located
  · exact ⟨next, here, shows⟩
  · refine ⟨next, here, ?_⟩
    cases enters with
    | claimed waits => cases shows
    | gathered _ listed itsOwn counted joins =>
      rw [← told _ listed itsOwn]
      exact Place.showsOnly_placeOn bar.rewriter key _

/-- A window that is not known before a tick does not wait when its workspaces have been aligned,
and is shown only under the text that the snapshot gives it. -/
theorem exists_showsOnly_align (sound : model.Sound) (addressed : snapshot.IsAddressed)
    (told : ∀ reported ∈ snapshot.windows, plainAddress reported.address = address →
      bar.rewriter.windowText reported.windowClass reported.title = text)
    (unknown : model.Locates address .nowhere) (excluded : List String) :
    ∃ place : Place,
      ((model.align bar snapshot excluded).addAllDeclared bar).Locates address place ∧
        place.ShowsOnly text := by
  have pruned : (model.removeStale bar snapshot).Sound ∧
      (model.removeStale bar snapshot).Locates address .nowhere := by
    refine List.foldlRecOn _ _ (motive := fun next => Sound next ∧ next.Locates address .nowhere)
      ⟨sound, unknown⟩ fun next ⟨kept, nowhere⟩ key _ => ⟨kept.remove snapshot key, ?_⟩
    obtain ⟨after, here, ⟨rfl, -⟩ | ⟨text, shown, -⟩⟩ :=
      exists_locates_remove kept.owned snapshot key nowhere
    · exact here
    · cases shown
  have aligned : (model.align bar snapshot excluded).Sound ∧ ∃ place : Place,
      (model.align bar snapshot excluded).Locates address place ∧ place.ShowsOnly text := by
    refine List.foldlRecOn _ _ (motive := fun next => Sound next ∧
      ∃ place : Place, next.Locates address place ∧ place.ShowsOnly text)
      ⟨pruned.1, .nowhere, pruned.2, trivial⟩
      fun next ⟨kept, place, here, shows⟩ report _ => ⟨kept.ensure addressed bar report, ?_⟩
    exact exists_showsOnly_ensure kept addressed told report here shows
  obtain ⟨alignedSound, place, here, shows⟩ := aligned
  exact ⟨place, here.of_holding (holding_addAllDeclared alignedSound.identified bar address), shows⟩

end Before

/-! ### The window -/

/-- An opened window with something to show goes to the workspace that its reference means, or waits
when it means none. It is there already when the change only repeats what the snapshot has said. -/
theorem exists_lands_openWindow {model : Model} (identified : model.Identified) (bar : Bar)
    {window : Window} (shown : window.isLeftOut bar.rewriter = false) {place : Place}
    (located : model.Locates window.address place)
    (shows : place.ShowsOnly (window.text bar.rewriter)) :
    ∃ next : Place, (model.openWindow bar window).Locates window.address next ∧
      next.Lands ((model.named? window.workspace).map Workspace.key)
        (window.text bar.rewriter) := by
  refine ⟨_, locates_openWindow identified bar located, ?_⟩
  rw [← meant?]
  split
  · next repeats =>
    cases place with
    | nowhere => cases repeats
    | waiting waiting => cases shows
    | shown key text => exact ⟨of_decide_eq_true repeats, shows⟩
  · rw [destination]
    cases model.meant? window.workspace with
    | none => exact rfl
    | some key =>
      dsimp only
      rw [Window.placeOn, shown]
      exact ⟨rfl, rfl⟩

/-! ### Ticks -/

/-- When a tick has carried out its changes, a window that one of them has opened and no other one
touches is where its reference has led. -/
theorem exists_lands_applyWindowChanges {model : Model} (sound : model.Sound) (bar : Bar)
    (snapshot : Snapshot) {before later : List WindowChange}
    {opened raw windowClass title : String}
    (addressed : ∀ change ∈ before ++ .opened opened raw windowClass title :: later,
      change.IsAddressed)
    (elsewhere : ∀ change ∈ before ++ later, change.touches (plainAddress opened) = false)
    (shown : bar.rewriter.shows windowClass title = true) {place : Place}
    (located : model.Locates (plainAddress opened) place)
    (shows : place.ShowsOnly (bar.rewriter.windowText windowClass title)) :
    ∃ next : Place,
      (model.applyWindowChanges bar snapshot
        (before ++ .opened opened raw windowClass title :: later)).Locates
          (plainAddress opened) next ∧
      next.Lands
        (((model.applyWindowChanges bar snapshot before).named? (workspaceReference raw)).map
          Workspace.key)
        (bar.rewriter.windowText windowClass title) := by
  have earlierAddressed : ∀ change ∈ before, change.IsAddressed :=
    fun change member => addressed change (List.mem_append_left _ member)
  have openedAddressed : (WindowChange.opened opened raw windowClass title).IsAddressed :=
    addressed _ (List.mem_append_right _ List.mem_cons_self)
  have laterAddressed : ∀ change ∈ later, change.IsAddressed :=
    fun change member => addressed change (List.mem_append_right _ (List.mem_cons_of_mem _ member))
  obtain ⟨reached, here, told⟩ := exists_locates_applyWindowChanges sound.owned bar snapshot
    earlierAddressed (fun change member => elsewhere change (List.mem_append_left _ member)) located
  have earlier := sound.applyWindowChanges bar snapshot earlierAddressed
  have something : (Window.ofIdentity raw opened windowClass title).isLeftOut bar.rewriter =
      false := by
    rw [Window.isLeftOut_ofIdentity, shown]
    rfl
  obtain ⟨landed, there, lands⟩ := exists_lands_openWindow earlier.identified bar something here
    (shows.told told)
  obtain ⟨last, after, toldAgain⟩ := exists_locates_applyWindowChanges
    (earlier.owned.applyWindowChange bar snapshot openedAddressed) bar snapshot laterAddressed
    (fun change member => elsewhere change (List.mem_append_right _ member)) there
  refine ⟨last, ?_, lands.told toldAgain⟩
  rw [applyWindowChanges, List.foldl_append, List.foldl_cons]
  exact after

/-- A window that was not known and is opened on a raw name is where that name's reference leads
when a tick has carried out its changes. -/
theorem exists_lands_catchUp {model : Model} (sound : model.Sound) {bar : Bar}
    {snapshot : Snapshot} (snapshotAddressed : snapshot.IsAddressed) {backlog : Backlog}
    (addressed : ∀ change ∈ backlog.windows, change.IsAddressed)
    (unannounced : backlog.workspaces = []) {before later : List WindowChange}
    {opened raw windowClass title : String}
    (listed : backlog.windows = before ++ .opened opened raw windowClass title :: later)
    (elsewhere : ∀ change ∈ before ++ later, change.touches (plainAddress opened) = false)
    (unknown : model.Locates (plainAddress opened) .nowhere)
    (shown : bar.rewriter.shows windowClass title = true)
    (told : ∀ reported ∈ snapshot.windows, plainAddress reported.address = plainAddress opened →
      bar.rewriter.windowText reported.windowClass reported.title =
        bar.rewriter.windowText windowClass title) :
    ∃ (place : Place) (target : Option Nat),
      (Tracker.catchUp bar snapshot backlog model).Locates (plainAddress opened) place ∧
        place.Lands target (bar.rewriter.windowText windowClass title) ∧
        ∀ key, target = some key ↔
          (Tracker.catchUp bar snapshot backlog model).Answers (workspaceReference raw) key := by
  have aligned := sound.align snapshotAddressed bar []
  have ready := aligned.addAllDeclared bar
  obtain ⟨reached, here, shows⟩ :=
    exists_showsOnly_align sound snapshotAddressed told unknown []
  rw [listed] at addressed
  obtain ⟨place, there, lands⟩ := exists_lands_applyWindowChanges ready bar snapshot addressed
    elsewhere shown here shows
  have caughtUp : Tracker.catchUp bar snapshot backlog model =
      (((model.align bar snapshot []).addAllDeclared bar).applyWindowChanges bar snapshot
        (before ++ .opened opened raw windowClass title :: later)).growOrphans bar
          model.orphans.keys := by
    rw [Tracker.catchUp, unannounced, listed]
    rfl
  -- The window did not wait when the tick began, so it does not grow older in it.
  have young : plainAddress opened ∉ model.orphans.keys :=
    SortedMap.get?_eq_none_iff.mp unknown.orphan
  refine ⟨place, _, ?_, lands, fun key => ?_⟩
  · rw [caughtUp]
    exact there.of_holding
      (holding_growOrphans_of_not_mem bar model.orphans.keys_nodup young _)
  · have earlier := outline_applyWindowChanges bar snapshot before
      ((model.align bar snapshot []).addAllDeclared bar)
    have kept : (((model.align bar snapshot []).addAllDeclared bar).applyWindowChanges bar
        snapshot before).KeepsNames (Tracker.catchUp bar snapshot backlog model) := by
      refine KeepsNames.of_outline ?_
      rw [earlier, caughtUp, outline_growOrphans, outline_applyWindowChanges]
    rw [kept.answers_iff]
    exact (ready.identified.of_outline earlier).named?_iff

end Model

namespace Tracker

/-- After every run with addresses as the compositor writes them, a tick that does not start over
and carries out no change of a workspace puts a window that was not known, and that one change opens
on the name of a reported workspace and no other one touches, on the workspace that the reference of
that name means and on no other one, under the text for its class and title. The reported workspace
gets it if no other one is called or referred to by that reference. -/
theorem landed_tick [Pattern.Engine] (config : BarConfig) {inputs : List Input}
    (addressed : AreAddressed inputs)
    {snapshot : Snapshot} (snapshotAddressed : snapshot.IsAddressed)
    (carriesOn : (run config inputs).startsOver = false)
    (distinct : (snapshot.workspaces.map ReportedWorkspace.id).Nodup) {report : ReportedWorkspace}
    (member : report ∈ snapshot.workspaces)
    (taken : (Bar.ofConfig config).takesReport report = true)
    (unannounced : (run config inputs).backlog.workspaces = []) {before later : List WindowChange}
    {opened windowClass title : String}
    (listed : (run config inputs).backlog.windows =
      before ++ .opened opened report.name windowClass title :: later)
    (elsewhere : ∀ change ∈ before ++ later, change.touches (plainAddress opened) = false)
    (unknown : ¬(run config inputs).model.Knows (plainAddress opened))
    (shown : (Bar.ofConfig config).rewriter.shows windowClass title = true)
    (told : ∀ reported ∈ snapshot.windows, plainAddress reported.address = plainAddress opened →
      reported.windowClass = windowClass ∧ reported.title = title) :
    let after := ((run config inputs).tick snapshot).model
    let reference := workspaceReference report.name
    let text := (Bar.ofConfig config).rewriter.windowText windowClass title
    (∀ key other, after.textOn? key (plainAddress opened) = some other ↔
      after.Answers reference key ∧ other = text) ∧
    ∃ key workspace, after.workspaces.get? key = some workspace ∧
      workspace.id = some report.id ∧ workspace.Bears report.name ∧
      (shownName reference = reference →
        (∀ other, after.nameAt? other = some reference ∨
          after.referenceAt? other = some reference → other = key) →
        after.textOn? key (plainAddress opened) = some text) := by
  intro after reference text
  obtain ⟨sound, waiting⟩ := sound_run config addressed
  have bar := bar_run config inputs
  have intact : ∀ id raw, .destroyed id raw ∉ (run config inputs).backlog.workspaces := by
    rw [unannounced]
    exact fun _ _ => List.not_mem_nil
  have caughtUp : after = (catchUp (Bar.ofConfig config) snapshot (run config inputs).backlog
      (run config inputs).model).observe (Bar.ofConfig config) snapshot := by
    rw [← bar]
    exact nextModel_of_not_startsOver carriesOn snapshot
  have landed : ∀ key other, after.textOn? key (plainAddress opened) = some other ↔
      after.Answers reference key ∧ other = text := by
    obtain ⟨place, target, located, lands, answers⟩ := Model.exists_lands_catchUp sound
      snapshotAddressed waiting unannounced listed elsewhere
      (sound.owned.locates_of_not_knows unknown) shown
      fun reported reportedMember itsOwn => by
        rw [(told reported reportedMember itsOwn).1, (told reported reportedMember itsOwn).2]
    obtain ⟨last, here, toldFocus⟩ :=
      Model.exists_locates_observe (Bar.ofConfig config) snapshot located
    have bears := Model.bearsReports_catchUp sound.identified (Bar.ofConfig config)
      (Snapshot.namesIds_of_distinct distinct) intact
    intro key other
    rw [caughtUp, here.textOn?_iff_of_lands (lands.told toldFocus), answers,
      (bears.keepsNames_observe (Bar.ofConfig config)).answers_iff]
  refine ⟨landed, ?_⟩
  obtain ⟨model, -, agrees, same⟩ := agrees_nextModel sound.identified distinct intact
  rw [bar] at agrees same
  obtain ⟨key, workspace, present, adopted⟩ :=
    (agrees.observe distinct).complete report member taken
  rw [← same] at present
  have bears := Workspace.bears_of_adopted adopted
  refine ⟨key, workspace, present, Workspace.id_of_adopted adopted, bears, fun plain alone => ?_⟩
  have referenced := workspaceReference_workspaceReference plain
  refine (landed key text).mpr ⟨Model.answers_of_alone ?_ ?_, rfl⟩
  · rw [referenced]
    exact (congrArg (Option.map Workspace.reference) present).trans (congrArg some bears.reference)
  · rw [plain, referenced]
    exact alone

/-- A window is opened on a reported workspace after a tick. -/
def landingRun : List Input :=
  [.snapshot sampleSnapshot, .event (.window (.opened "ab" "1" "editor" "notes"))]

theorem areAddressed_landingRun : AreAddressed landingRun := by
  have addresses : IsAddress "0xcd" ∧ IsAddress "ab" := ⟨isAddress_reported, isAddress_announced⟩
  simpa [AreAddressed, landingRun, sampleSnapshot, Input.addresses, WindowChange.address?] using
    addresses

theorem landed_tick_landingRun :
    AreAddressed landingRun ∧ sampleSnapshot.IsAddressed ∧
      (run {} landingRun).startsOver = false ∧
      (sampleSnapshot.workspaces.map ReportedWorkspace.id).Nodup ∧
      { id := 1, name := "1", windows := 1 } ∈ sampleSnapshot.workspaces ∧
      (Bar.ofConfig {}).takesReport { id := 1, name := "1", windows := 1 } = true ∧
      (run {} landingRun).backlog.workspaces = [] ∧
      (run {} landingRun).backlog.windows = [.opened "ab" "1" "editor" "notes"] ∧
      ¬(run {} landingRun).model.Knows "ab" ∧
      (Bar.ofConfig {}).rewriter.shows "editor" "notes" = true ∧
      (∀ reported ∈ sampleSnapshot.windows, plainAddress reported.address = plainAddress "ab" →
        reported.windowClass = "editor" ∧ reported.title = "notes") ∧
      ∀ key other, ((run {} landingRun).tick sampleSnapshot).model.textOn? key "ab" = some other ↔
        ((run {} landingRun).tick sampleSnapshot).model.Answers "1" key ∧ other = "?" := by
  have member : { id := 1, name := "1", windows := 1 } ∈ sampleSnapshot.workspaces :=
    List.mem_singleton.mpr rfl
  have waiting : (run {} landingRun).backlog.windows =
      [] ++ .opened "ab" "1" "editor" "notes" :: [] := by decide
  have unknown : ¬(run {} landingRun).model.Knows "ab" := by
    rw [(sound_run {} areAddressed_landingRun).1.owned.knows_iff]
    decide
  have told : ∀ reported ∈ sampleSnapshot.windows,
      plainAddress reported.address = plainAddress "ab" →
        reported.windowClass = "editor" ∧ reported.title = "notes" := by decide
  have landed := landed_tick {} areAddressed_landingRun isAddressed_sampleSnapshot (by decide)
    (by decide) member (by decide) (by decide) waiting (by decide) unknown (by decide) told
  exact ⟨areAddressed_landingRun, isAddressed_sampleSnapshot, by decide, by decide, member,
    by decide, by decide, waiting, unknown, by decide, told, landed.1⟩

/-- Reports of two workspaces whose names differ after the space only. -/
def spacedSnapshot : Snapshot :=
  { workspaces := [{ id := 1, name := "mail" }, { id := 2, name := "mail 2" }] }

/-- A window is opened on the second one of them. -/
def spacedRun : List Input :=
  [.snapshot spacedSnapshot, .event (.window (.opened "ab" "mail 2" "term" "x"))]

/-- A window that is opened on a workspace with a space in its name comes onto another one that
shows the part before the space. -/
theorem not_landed_spacedRun :
    (run {} spacedRun).startsOver = false ∧
      (run {} spacedRun).backlog =
        { windows := [.opened "ab" "mail 2" "term" "x"] } ∧
      (run {} spacedRun).model.owners.get? "ab" = none ∧
      ((run {} spacedRun).tick spacedSnapshot).model.workspaces.values.map
        (fun workspace => (workspace.key, workspace.id, workspace.name)) =
          [(1, some 1, "mail"), (2, some 2, "mail 2")] ∧
      ((run {} spacedRun).tick spacedSnapshot).model.textOn? 2 "ab" = none ∧
      ((run {} spacedRun).tick spacedSnapshot).model.textOn? 1 "ab" = some "?" := by
  decide

end Tracker

end Deskbar
