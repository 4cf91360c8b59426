/-
This file says which windows still wait at the end of a tick although their workspace is there.
None waits for a workspace that is reported. Every report makes its workspace claim the windows that
wait for it, after all workspaces have been removed that are, and a window that comes later waits
only when nothing is found under its reference.

A workspace that is not reported claims nothing, neither when it is added because it is declared nor
when it is let go of and stays. So a window may wait for such a workspace: one that has waited
before the workspace was there, or one of a removed workspace that the snapshot lists elsewhere.
-/

import Deskbar.Proofs.Delivery
import Deskbar.Proofs.Names
import Deskbar.Proofs.Repetition

namespace Deskbar

/-- Whether a snapshot lists a window on a workspace that windows refer to in a certain way. -/
def Snapshot.ListsOn (snapshot : Snapshot) (address reference : String) : Prop :=
  ∃ report ∈ snapshot.windows, plainAddress (plainAddress report.address) = address ∧
    workspaceReference report.workspace.name = reference

namespace Model

/-- Whether a window waits for a workspace that windows refer to in a certain way. -/
def WaitsFor (orphans : SortedMap String Window) (address reference : String) : Prop :=
  ∃ window, orphans.get? address = some window ∧ window.workspace = reference

/-! ### Windows of removed workspaces -/

/-- Every window that waits has waited before for the same workspace, or the snapshot lists it
there. -/
structure Strands (snapshot : Snapshot) (before after : SortedMap String Window) : Prop where
  known : ∀ {address reference}, WaitsFor after address reference →
    WaitsFor before address reference ∨ snapshot.ListsOn address reference

namespace Strands

variable {snapshot : Snapshot}

theorem refl (orphans : SortedMap String Window) : Strands snapshot orphans orphans := ⟨Or.inl⟩

theorem of_dwindles {before after : SortedMap String Window} (fewer : Dwindles before after) :
    Strands snapshot before after := by
  refine ⟨?_⟩
  rintro address _ ⟨window, waits, rfl⟩
  exact Or.inl (fewer.waited waits)

theorem trans {first second third : SortedMap String Window}
    (earlier : Strands snapshot first second) (later : Strands snapshot second third) :
    Strands snapshot first third :=
  ⟨fun waits => (later.known waits).elim earlier.known Or.inr⟩

theorem foldl {Item : Type} {step : Model → Item → Model}
    (strands : ∀ model item, Strands snapshot model.orphans (step model item).orphans)
    (items : List Item) (model : Model) :
    Strands snapshot model.orphans (items.foldl step model).orphans :=
  List.foldlRecOn items step (motive := fun next => Strands snapshot model.orphans next.orphans)
    (refl model.orphans) fun next kept item _ => kept.trans (strands next item)

end Strands

/-- A window that is let wait waits for its workspace, and no other window starts to wait. -/
theorem waitsFor_orphan {window : Window} {model : Model} {address reference : String}
    (waits : WaitsFor (model.orphan window).orphans address reference) :
    address = window.address ∧ reference = window.workspace ∨
      WaitsFor model.orphans address reference := by
  obtain ⟨found, present, same⟩ := waits
  rw [get?_orphans_orphan] at present
  split at present
  · next here =>
    rw [← Option.some.inj present] at same
    exact Or.inl ⟨here, same.symm⟩
  · obtain ⟨old, oldPresent, oldSame⟩ :=
      (Sheds.withdraw window.address model).dwindles.waited present
    exact Or.inr ⟨old, oldPresent, oldSame.trans same⟩

section Steps

variable (bar : Bar) (snapshot : Snapshot)

/-- A window of a removed workspace waits where the snapshot lists it. -/
theorem strands_abandon (model : Model) (entry : String × String) :
    Strands snapshot model.orphans (model.abandon snapshot entry).orphans := by
  rw [abandon]
  split
  · next report found =>
    refine ⟨fun waits => (waitsFor_orphan waits).symm.imp_right ?_⟩
    rintro ⟨rfl, rfl⟩
    rw [Snapshot.window?] at found
    have plain := List.find?_some found
    exact ⟨report, List.mem_of_find?_eq_some found,
      congrArg plainAddress (of_decide_eq_true plain), rfl⟩
  · exact Strands.refl _

theorem strands_remove (key : Nat) (model : Model) :
    Strands snapshot model.orphans (model.remove snapshot key).orphans := by
  rw [remove]
  split
  · exact Strands.refl _
  · next workspace _ =>
    dsimp only
    split
    · exact Strands.foldl (strands_abandon snapshot) workspace.windows.entries
        (model.update key fun workspace => workspace.clearWindows.letGo)
    · exact Strands.foldl (strands_abandon snapshot) workspace.windows.entries
        { model with workspaces := model.workspaces.erase key }

/-- Whatever happens to workspaces, a window that waits has waited before or is listed. -/
theorem stepwise_strands :
    Stepwise bar snapshot fun before after => Strands snapshot before.orphans after.orphans where
  refl model := Strands.refl model.orphans
  trans := Strands.trans
  replace _ _ _ _ _ := Strands.refl _
  claim model key := Strands.of_dwindles (Sheds.claim bar key model).dwindles
  remove model key := strands_remove snapshot key model
  ensure model report := Strands.of_dwindles (Sheds.ensure bar snapshot report model).dwindles
  declare model raw := by
    rw [addDeclared]
    dsimp only
    split <;> exact Strands.refl model.orphans

end Steps

/-! ### Changes of windows -/

/-- The workspaces are the same, and a window that waits has waited before for the same workspace,
or none of the workspaces is referred to as it refers to its own. -/
structure Places (before after : Model) : Prop where
  outline : after.outline = before.outline
  unmet : ∀ {address reference}, WaitsFor after.orphans address reference →
    WaitsFor before.orphans address reference ∨
      ∀ key workspace, before.workspaces.get? key = some workspace →
        workspace.reference ≠ workspaceReference reference

namespace Places

variable {first second third : Model}

theorem of_dwindles (same : second.outline = first.outline)
    (fewer : Dwindles first.orphans second.orphans) : first.Places second := by
  refine ⟨same, ?_⟩
  rintro address _ ⟨window, waits, rfl⟩
  exact Or.inl (fewer.waited waits)

theorem trans (earlier : first.Places second) (later : second.Places third) :
    first.Places third := by
  refine ⟨later.outline.trans earlier.outline, fun waits => ?_⟩
  rcases later.unmet waits with before | none
  · exact earlier.unmet before
  · refine Or.inr fun key workspace present => ?_
    obtain ⟨after, afterPresent, same⟩ := get?_of_outline earlier.outline.symm present
    rw [← Workspace.reference_of_outline same]
    exact none key after afterPresent

end Places

theorem places_settle (bar : Bar) (window : Window) (model : Model) :
    model.Places (model.settle bar window) := by
  have outlined := outline_settle bar window model
  rw [settle] at outlined ⊢
  cases found : model.named? window.workspace with
  | some workspace =>
    rw [found] at outlined
    exact Places.of_dwindles outlined (Sheds.place ..).dwindles
  | none =>
    rw [found] at outlined
    refine ⟨outlined, fun waits => (waitsFor_orphan waits).symm.imp_right ?_⟩
    rintro ⟨-, rfl⟩ key workspace present referred
    have met := isSome_named?_iff.mpr ⟨key, workspace, present, Or.inr referred⟩
    rw [found] at met
    cases met

theorem places_applyWindowChange (bar : Bar) (snapshot : Snapshot) (model : Model)
    (change : WindowChange) : model.Places (model.applyWindowChange bar snapshot change) := by
  have outlined := outline_applyWindowChange bar snapshot model change
  cases change with
  | opened address target windowClass title =>
    rw [applyWindowChange, openWindow]
    split
    · exact Places.of_dwindles rfl (Dwindles.refl _)
    · exact places_settle ..
  | closed address => exact Places.of_dwindles outlined (Sheds.withdraw ..).dwindles
  | moved address target =>
    have withdrawn : model.Places (model.withdraw (plainAddress address)).2 :=
      Places.of_dwindles (outline_withdraw ..) (Sheds.withdraw ..).dwindles
    rw [applyWindowChange, moveWindow]
    dsimp only
    split
    · exact withdrawn.trans (places_settle ..)
    · exact withdrawn
  | retitled address title =>
    refine Places.of_dwindles outlined ?_
    rw [applyWindowChange, retitleWindow]
    split
    · exact Dwindles.refl _
    · split
      · next title _ =>
        have kept : ∀ window : Window,
            ((window.retitle? title).getD window).workspace = window.workspace := by
          intro window
          rw [Window.retitle?]
          split <;> rfl
        show Dwindles model.orphans (model.orphans.modify (plainAddress address) fun window =>
          (window.retitle? title).getD window)
        exact Dwindles.modify model.orphans (plainAddress address) kept
      · exact Dwindles.refl _
    · exact Dwindles.refl _
  | urgent address =>
    refine Places.of_dwindles outlined ?_
    rw [applyWindowChange, markUrgent]
    split <;> exact Dwindles.refl _
  | focused address =>
    exact Places.of_dwindles outlined
      (Dwindles.shareFocus { model with focused := address.map plainAddress })

theorem places_applyWindowChanges (bar : Bar) (snapshot : Snapshot) (changes : List WindowChange)
    (model : Model) : model.Places (model.applyWindowChanges bar snapshot changes) :=
  List.foldlRecOn changes (applyWindowChange bar snapshot)
    (motive := fun next => model.Places next) (Places.of_dwindles rfl (Dwindles.refl _))
    fun next kept change _ => kept.trans (places_applyWindowChange bar snapshot next change)

/-! ### Ticks -/

/-- Before the flags of a tick are made out, a window that waits for a workspace that is there waits
for one that is not reported. It has waited since before the tick, or the snapshot lists it
there. -/
theorem unreported_of_waitsFor_catchUp {model : Model} (identified : model.Identified) {bar : Bar}
    {snapshot : Snapshot} (named : snapshot.NamesIds) {backlog : Backlog}
    (intact : ∀ id raw, .destroyed id raw ∉ backlog.workspaces) {address reference : String}
    (waits : WaitsFor (Tracker.catchUp bar snapshot backlog model).orphans address reference)
    (stable : workspaceReference reference = reference) {key : Nat} {workspace : Workspace}
    (present : (Tracker.catchUp bar snapshot backlog model).workspaces.get? key = some workspace)
    (referred : workspace.reference = reference) :
    workspace.id = none ∧
      (WaitsFor model.orphans address reference ∨ snapshot.ListsOn address reference) := by
  let changed := (model.removeDestroyed snapshot backlog.workspaces).applyChanges bar snapshot
    backlog.workspaces
  let aligned := changed.align bar snapshot []
  let declared := aligned.addAllDeclared bar
  have changedIdentified : changed.Identified :=
    (identified.removeDestroyed snapshot backlog.workspaces).applyChanges bar snapshot _
  have outlined : (Tracker.catchUp bar snapshot backlog model).outline = declared.outline := by
    rw [outline_catchUp, filterMap_destroyedName?_eq_nil intact]
  -- Changes of windows let no window wait for a workspace that is there.
  have waited : WaitsFor aligned.orphans address reference := by
    have placed : declared.Places (Tracker.catchUp bar snapshot backlog model) := by
      rw [Tracker.catchUp, filterMap_destroyedName?_eq_nil intact]
      exact (places_applyWindowChanges bar snapshot backlog.windows declared).trans
        (Places.of_dwindles (outline_growOrphans ..) (Dwindles.growOrphans ..))
    rcases placed.unmet waits with before | unmet
    · rwa [orphans_addAllDeclared] at before
    · obtain ⟨origin, originPresent, same⟩ := get?_of_outline outlined present
      refine absurd ?_ (unmet key origin originPresent)
      rw [Workspace.reference_of_outline same, referred, stable]
  constructor
  · cases reported : workspace.id with
    | none => rfl
    | some id =>
      have pruned := ((pruned_align changedIdentified bar snapshot []).addAllDeclared).of_outline
        outlined
      obtain ⟨report, member, taken, rfl⟩ := pruned key workspace id present reported
      have bears := bearsReports_catchUp identified bar named intact key workspace present report
        member reported
      obtain ⟨window, windowWaits, same⟩ := waited
      refine absurd ?_ (claimed_align changedIdentified bar snapshot report member taken address
        window windowWaits)
      rw [same, ← referred, bears.reference]
  · have stepwise := stepwise_strands bar snapshot
    have stranded : Strands snapshot model.orphans aligned.orphans :=
      (stepwise.announced backlog.workspaces model).trans (stepwise.align [] changed)
    exact stranded.known waited

end Model

namespace Tracker

/-- When no destruction of a workspace was announced and reports under one id have one name, a
window that still waits after a tick waits for none of the workspaces that are there. The exception
are workspaces that are not reported: a window may wait for one of them that has waited since before
the tick, or that the snapshot lists there. The reference of the window has to be one that refers to
the same workspace when it is read as a name. -/
theorem claimed_tick [Pattern.Engine] (config : BarConfig) (inputs : List Input)
    {snapshot : Snapshot}
    (intact : ∀ id raw, .destroyed id raw ∉ (run config inputs).backlog.workspaces)
    (named : snapshot.NamesIds) {address reference : String}
    (waits : Model.WaitsFor ((run config inputs).tick snapshot).model.orphans address reference)
    (stable : workspaceReference reference = reference) {key : Nat} {workspace : Workspace}
    (present : ((run config inputs).tick snapshot).model.workspaces.get? key = some workspace) :
    workspace.reference ≠ reference ∨
      workspace.id = none ∧ (Model.WaitsFor (run config inputs).model.orphans address reference ∨
        snapshot.ListsOn address reference) := by
  refine or_iff_not_imp_left.mpr fun referred => ?_
  have identified := Model.identified_run config inputs
  have observed : ∀ model : Model, (run config inputs).nextModel snapshot =
      model.observe (run config inputs).bar snapshot →
        Model.WaitsFor model.orphans address reference := by
    intro model same
    have afterwards : Model.WaitsFor ((run config inputs).nextModel snapshot).orphans address
      reference := waits
    obtain ⟨window, windowWaits, rfl⟩ := afterwards
    rw [same] at windowWaits
    exact (Model.Dwindles.observe (run config inputs).bar snapshot model).waited windowWaits
  cases startsOver : (run config inputs).startsOver with
  | true =>
    obtain ⟨window, windowWaits, -⟩ := observed _ (nextModel_of_startsOver startsOver snapshot)
    rw [(Model.listed_startOver ..).none address] at windowWaits
    cases windowWaits
  | false =>
    have next := nextModel_of_not_startsOver startsOver snapshot
    have bears := Model.bearsReports_catchUp identified (run config inputs).bar named intact
    have found : ((run config inputs).nextModel snapshot).workspaces.get? key = some workspace :=
      present
    rw [next, Model.get?_observe] at found
    obtain ⟨origin, originPresent, rfl⟩ := Option.map_eq_some_iff.mp found
    have kept := (bears.keepsNames_observe (run config inputs).bar).reference key
    rw [Model.referenceAt?, Model.referenceAt?, Model.get?_observe, originPresent] at kept
    have called := (Option.some.inj kept).symm.trans (not_not.mp referred)
    obtain ⟨unreported, known⟩ := Model.unreported_of_waitsFor_catchUp identified named intact
      (observed _ next) stable originPresent called
    exact ⟨(Workspace.id_observe (run config inputs).bar snapshot origin).trans unreported, known⟩

/-- In a run a window waits for a workspace that is not there, beside one that is. -/
theorem claimed_tick_sampleRun :
    (∀ id raw, .destroyed id raw ∉ (run {} sampleRun).backlog.workspaces) ∧
      sampleSnapshot.NamesIds ∧
      Model.WaitsFor ((run {} sampleRun).tick sampleSnapshot).model.orphans "ab" "2" ∧
      workspaceReference "2" = "2" ∧
      ∃ workspace, ((run {} sampleRun).tick sampleSnapshot).model.workspaces.get? 1 =
          some workspace ∧
        (workspace.reference ≠ "2" ∨
          workspace.id = none ∧ (Model.WaitsFor (run {} sampleRun).model.orphans "ab" "2" ∨
            sampleSnapshot.ListsOn "ab" "2")) := by
  have intact : ∀ id raw, .destroyed id raw ∉ (run {} sampleRun).backlog.workspaces := by
    have none : (run {} sampleRun).backlog.workspaces = [] := by decide
    intro id raw
    rw [none]
    exact List.not_mem_nil
  have named : sampleSnapshot.NamesIds := Snapshot.namesIds_of_distinct (by decide)
  have waits : Model.WaitsFor ((run {} sampleRun).tick sampleSnapshot).model.orphans "ab" "2" := by
    refine ⟨_, Option.eq_some_of_isSome (by decide), by decide⟩
  have present : (((run {} sampleRun).tick sampleSnapshot).model.workspaces.get? 1).isSome := by
    decide
  obtain ⟨workspace, found⟩ := Option.isSome_iff_exists.mp present
  exact ⟨intact, named, waits, by decide, workspace, found,
    claimed_tick {} sampleRun intact named waits (by decide) found⟩

/-- Reports of workspaces with one window, which is counted to a workspace. -/
def snapshotWith (workspaces : List ReportedWorkspace) (id : Int) (name : String) : Snapshot :=
  { workspaces := workspaces
    windows := [{ address := "0xcd", windowClass := "term", workspace := ⟨id, name⟩ }] }

/-- The changes of workspaces that a tick carries out, the windows that wait when it is over with
what they wait for, and the workspaces that are there, by their ids and how windows refer to
them. -/
def waitingAfter (tracker : Tracker) (snapshot : Snapshot) :
    List WorkspaceChange × List (String × String) × List (Option Int × String) :=
  let model := (tracker.tick snapshot).model
  (tracker.backlog.workspaces,
    model.orphans.entries.map fun entry => (entry.1, entry.2.workspace),
    model.workspaces.values.map fun workspace => (workspace.id, workspace.reference))

/-- A workspace is declared, on a bar for every output or for one of them. -/
def declaringWeb (output : Option String) : BarConfig :=
  { output := output, declarations := [.named "web" []] }

/-- A window waits for a workspace that is there when a declared workspace is added after the window
has begun to wait, when a declared workspace is let go of and its window is still listed on it, and
when the window of another workspace is listed on one that is not reported. It does as well when the
first report of an id is one that the bar does not take in, and when a reference has a lead. -/
theorem not_claimed_declaringWeb :
    (waitingAfter (run (declaringWeb none)
          [.snapshot (snapshotWith [{ id := 1, name := "web" }, { id := 2, name := "y" }] 2 "y")])
        (snapshotWith [{ id := 1, name := "x" }] 9 "web") =
        ([], [("cd", "web")], [(some 1, "x"), (none, "web")]) ∧
      waitingAfter (run (declaringWeb "DP-1")
          [.snapshot (snapshotWith [{ id := 1, name := "web", monitor := "DP-1" }] 1 "web")])
        (snapshotWith [{ id := 1, name := "web", monitor := "HDMI-A-1" }] 1 "web") =
        ([], [("cd", "web")], [(none, "web")]) ∧
      waitingAfter (run (declaringWeb none)
          [.snapshot (snapshotWith [{ id := 2, name := "y" }] 2 "y")])
        (snapshotWith [] 9 "web") =
        ([], [("cd", "web")], [(none, "web")])) ∧
    waitingAfter (run { output := some "DP-1" }
          [.snapshot (snapshotWith [{ id := 2, name := "y", monitor := "DP-1" }] 2 "y")])
        (snapshotWith [{ id := 1, name := "b", monitor := "HDMI-A-1" },
          { id := 1, name := "a", monitor := "DP-1" }] 9 "b") =
        ([], [("cd", "b")], [(some 1, "b")]) ∧
    waitingAfter (run {} [.snapshot { workspaces := [{ id := 1, name := "name:name:web" }] },
          .event (.window (.opened "cd" "name:name:web" "term" "x"))])
        { workspaces := [{ id := 1, name := "name:name:web" }] } =
        ([], [("cd", "name:web")], [(some 1, "name:web")]) := by
  refine ⟨⟨?_, ?_, ?_⟩, ?_, ?_⟩
  · decide
  · decide
  · decide
  · decide
  · decide

end Tracker

end Deskbar
