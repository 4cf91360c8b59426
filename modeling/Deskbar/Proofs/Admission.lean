/-
This file shows which workspaces on the bar are ones that it takes in. Those that are reported are,
since they have adopted a report that the bar takes in, and no workspace shows a name that is to be
left out. A workspace that is not reported has come from the declarations, or is what a removal has
left of a declared one. The removal leaves it on the output and as special as it last was, so it is
taken in unless it had been moved away, or had been renamed to be special, before it was removed.
-/

import Deskbar.Proofs.Lost

namespace Deskbar

/-! ### What the bar takes in -/

namespace Bar

/-- What speaks for a workspace on an output: the bar is for all outputs, or for this one. -/
def Covers (bar : Bar) (output : String) : Prop :=
  bar.spansAll = true ∨ bar.config.output = some output

theorem takes_iff {bar : Bar} {name output : String} {special : Bool} :
    bar.takes name output special = true ↔
      (special = true → bar.config.showSpecial = true) ∧ bar.Covers output ∧
        bar.leavesOut name = false := by
  unfold takes Covers
  by_cases hidden : special = true ∧ bar.config.showSpecial = false
  · simp [hidden]
  · by_cases elsewhere : bar.spansAll = false ∧ bar.config.output ≠ some output
    · simp_all
    · cases special <;> cases shown : bar.config.showSpecial <;>
        cases spans : bar.spansAll <;> simp_all

theorem ignores_iff {ignored : List Pattern} {name : String} :
    ignores ignored name = true ↔ ∃ pattern ∈ ignored, pattern.occursIn name = true :=
  List.any_eq_true

/-- A name is to be left out if it has a match of one of the patterns to ignore. A text that makes
no pattern is passed over. -/
theorem leavesOut_ofConfig_iff [Pattern.Engine] {config : BarConfig} {name : String} :
    (ofConfig config).leavesOut name = true ↔
      ∃ text ∈ config.ignored, ∃ pattern, Pattern.Engine.compile? text = some pattern ∧
        pattern.occursIn name = true := by
  refine ignores_iff.trans ?_
  simp only [ofConfig, List.mem_filterMap]
  exact ⟨fun ⟨pattern, ⟨text, listed, made⟩, found⟩ => ⟨text, listed, pattern, made, found⟩,
    fun ⟨text, listed, pattern, made, found⟩ => ⟨pattern, ⟨text, listed, made⟩, found⟩⟩

/-- No name that is declared is to be left out. -/
theorem leavesOut_of_declares [Pattern.Engine] {config : BarConfig} {name : String}
    (declared : (ofConfig config).declares name = true) :
    (ofConfig config).leavesOut name = false := by
  have included : ∀ (ignored : List Pattern) (output : Option String)
      (declarations : List Declaration), ∀ raw ∈ declaredNames ignored output declarations,
      ignores ignored (shownName raw) = false := by
    intro ignored output declarations
    refine List.foldlRecOn _ (addName ignored) (motive := fun names =>
      ∀ raw ∈ names, ignores ignored (shownName raw) = false) ?_ ?_
    · exact fun raw member => absurd member List.not_mem_nil
    · intro names kept added _ raw member
      rw [addName] at member
      split at member
      · exact kept raw member
      · next fresh =>
        rcases List.mem_append.mp member with old | new
        · exact kept raw old
        · rw [List.mem_singleton.mp new]
          simp only [Bool.or_eq_true, not_or, Bool.not_eq_true] at fresh
          exact fresh.2
  obtain ⟨raw, member, shown⟩ := List.any_eq_true.mp declared
  rw [← of_decide_eq_true shown]
  exact included _ _ _ raw member

end Bar

namespace Model

theorem keeps_of_adopted {bar : Bar} {workspace : Workspace} {report : ReportedWorkspace}
    (taken : bar.takesReport report = true) (adopted : workspace.adopt report = workspace) :
    keeps bar workspace = true := by
  rw [← adopted]
  exact taken

theorem leavesOut_of_keeps {bar : Bar} {workspace : Workspace}
    (kept : keeps bar workspace = true) : bar.leavesOut workspace.name = false :=
  (Bar.takes_iff.mp kept).2.2

end Model

/-- A workspace that is not reported is observed where it is, and as special as it is. -/
theorem Workspace.keeps_observe_of_unreported {bar : Bar} (snapshot : Snapshot)
    {workspace : Workspace} (unreported : workspace.id = none) :
    Model.keeps bar (workspace.observe bar snapshot) = Model.keeps bar workspace := by
  have same : workspace.reported snapshot = workspace := by
    rw [Workspace.reported, Snapshot.reportOf?, unreported]
    rfl
  show Model.keeps bar (workspace.reported snapshot) = _
  rw [same]

/-! ### Names that are left out -/

/-- No tick brings a name onto the bar that is to be left out, if none is declared. -/
theorem Roster.lasting_leavesOut {bar : Bar} (snapshot : Snapshot)
    (changes : List WorkspaceChange)
    (unignored : ∀ name, bar.declares name = true → bar.leavesOut name = false) :
    Roster.Lasting bar snapshot changes fun workspace => bar.leavesOut workspace.name = false where
  adopted _ _ taken _ adopted :=
    Model.leavesOut_of_keeps (Model.keeps_of_adopted taken adopted)
  left workspace left included same := by
    obtain ⟨-, rfl⟩ := Workspace.left?_eq_some_iff.mp same
    exact included
  renamed _ _ _ _ _ _ kept := Model.leavesOut_of_keeps kept
  renamedAway _ _ _ _ left _ _ _ same := by
    obtain ⟨declared, rfl⟩ := Workspace.left?_eq_some_iff.mp same
    exact unignored _ declared
  moved _ _ _ _ included _ _ := included
  movedAway _ _ _ _ _ included _ _ same := by
    obtain ⟨-, rfl⟩ := Workspace.left?_eq_some_iff.mp same
    exact included
  added _ _ taken _ := (Bar.takes_iff.mp taken).2.2

/-! ### Declared workspaces in their places -/

/-- No change puts a declared workspace where the bar does not take it in: on an output that the bar
is not for, or among the special workspaces when the bar shows none. -/
structure WorkspaceChange.KeepDeclared (bar : Bar) (changes : List WorkspaceChange) : Prop where
  moved : ∀ raw monitor, .moved raw monitor ∈ changes → bar.Covers monitor ∨
    ∀ name, bar.declares name = true → referenceOf name ≠ workspaceReference raw
  renamed : ∀ id raw, .renamed id raw ∈ changes → bar.declares (shownName raw) = true →
    (WorkspaceName.parse raw).special = true → bar.config.showSpecial = true

/-- A workspace is one that the bar takes in, or is lost. Windows refer to it by its name. -/
structure Workspace.IsAdmitted (bar : Bar) (workspace : Workspace) : Prop where
  referred : workspace.IsReferred
  kept : Model.keeps bar workspace = true ∨ workspace.IsLost bar

/-- Changes that leave declared workspaces in their places let go of no other workspace than of one
that the bar takes in, or of one that is lost. -/
theorem Roster.lasting_isAdmitted {bar : Bar} (snapshot : Snapshot)
    {changes : List WorkspaceChange} (keep : WorkspaceChange.KeepDeclared bar changes)
    (unignored : ∀ name, bar.declares name = true → bar.leavesOut name = false) :
    Roster.Lasting bar snapshot changes (Workspace.IsAdmitted bar) where
  adopted _ _ taken _ adopted :=
    ⟨Workspace.isReferred_of_adopted adopted, Or.inl (Model.keeps_of_adopted taken adopted)⟩
  left workspace left admitted same := by
    obtain ⟨-, rfl⟩ := Workspace.left?_eq_some_iff.mp same
    exact ⟨admitted.referred, admitted.kept.imp_right fun lost => ⟨rfl, lost.2⟩⟩
  renamed _ _ _ _ _ _ kept := ⟨rfl, Or.inl kept⟩
  renamedAway id raw member workspace left admitted own refused same := by
    obtain ⟨declared, rfl⟩ := Workspace.left?_eq_some_iff.mp same
    refine ⟨rfl, Or.inl ?_⟩
    have before := admitted.kept.resolve_right (Workspace.not_isLost_of_reported own)
    exact Bar.takes_iff.mpr ⟨keep.renamed id raw member declared, (Bar.takes_iff.mp before).2.1,
      unignored _ declared⟩
  moved _ _ _ _ admitted _ kept := ⟨admitted.referred, Or.inl kept⟩
  movedAway raw monitor member workspace left admitted called refused same := by
    obtain ⟨-, rfl⟩ := Workspace.left?_eq_some_iff.mp same
    refine ⟨admitted.referred, ?_⟩
    rcases admitted.kept with before | lost
    · obtain ⟨special, -, included⟩ := Bar.takes_iff.mp before
      rcases keep.moved raw monitor member with covers | others
      · exact Or.inl (Bar.takes_iff.mpr ⟨special, covers, included⟩)
      · refine Or.inr ⟨rfl, Bool.eq_false_iff.mpr fun declared => ?_⟩
        exact others _ declared (admitted.referred.of_isCalled called)
    · exact Or.inr ⟨rfl, lost.2⟩
  added _ _ taken _ := ⟨rfl, Or.inl taken⟩

/-! ### Runs -/

namespace Tracker

variable {config : BarConfig} {inputs : List Input}

/-- Whether the reports of a snapshot have ids of their own. -/
def IsDistinct (_ : Tracker) (snapshot : Snapshot) : Prop :=
  (snapshot.workspaces.map ReportedWorkspace.id).Nodup

/-- Whether the changes that a tick carries out leave declared workspaces in their places, and do
not both move and destroy what windows refer to in one way. -/
def IsPlacid (tracker : Tracker) (_ : Snapshot) : Prop :=
  WorkspaceChange.KeepDeclared tracker.bar tracker.carried ∧ WorkspaceChange.Apart tracker.carried

theorem leavesOut_of_declares_run [Pattern.Engine] (config : BarConfig) (inputs : List Input) :
    ∀ name, (run config inputs).bar.declares name = true →
      (run config inputs).bar.leavesOut name = false := by
  rw [bar_run]
  exact fun name => Bar.leavesOut_of_declares

/-- At the end of every run with distinct ids no workspace shows a name that is to be left out. -/
theorem leavesOut_run [Pattern.Engine] (distinct : EveryTick IsDistinct (ofConfig config) inputs) :
    (run config inputs).model.roster.Every fun workspace =>
      (Bar.ofConfig config).leavesOut workspace.name = false := by
  refine distinct.run_induction (motive := fun tracker => tracker.model.roster.Every
    fun workspace => (Bar.ofConfig config).leavesOut workspace.name = false) ?_ ?_ ?_
  · exact fun key workspace present => by cases present
  · exact fun tracker event included => included
  · intro before snapshot included every
    have unignored := leavesOut_of_declares_run config before
    rw [← bar_run config before] at included ⊢
    refine (Model.ticks_nextModel (Model.identified_run config before) snapshot).every
      (Snapshot.placesIds_of_distinct every.last) (Roster.lasting_leavesOut snapshot _ unignored)
      included ?_ ?_
    · exact fun workspace report taken adopted =>
        Model.leavesOut_of_keeps (Model.keeps_of_adopted taken adopted)
    · intro key origin _ unreported originIncluded
      rwa [Workspace.name_observe_of_unreported _ snapshot unreported]

theorem EveryTick.isOrderly [Pattern.Engine] (distinct : EveryTick IsDistinct
    (ofConfig config) inputs)
    (placid : EveryTick IsPlacid (ofConfig config) inputs) :
    EveryTick IsOrderly (ofConfig config) inputs :=
  (distinct.and placid).mono fun _ _ both carriesOn =>
    ⟨Snapshot.placesIds_of_distinct both.1, carried_eq carriesOn ▸ both.2.2⟩

/-- At the end of every run with distinct ids that leaves declared workspaces in their places, the
bar takes in every workspace. -/
theorem keeps_run [Pattern.Engine] (distinct : EveryTick IsDistinct (ofConfig config) inputs)
    (placid : EveryTick IsPlacid (ofConfig config) inputs) :
    (run config inputs).model.roster.Every fun workspace =>
      Model.keeps (Bar.ofConfig config) workspace = true := by
  refine (distinct.and placid).run_induction (motive := fun tracker => tracker.model.roster.Every
    fun workspace => Model.keeps (Bar.ofConfig config) workspace = true) ?_ ?_ ?_
  · exact fun key workspace present => by cases present
  · exact fun tracker event kept => kept
  · intro before snapshot kept every
    obtain ⟨isDistinct, keepDeclared, -⟩ := every.last
    have unignored := leavesOut_of_declares_run config before
    have referred := isReferred_run config before
    have accounted := isAccounted_run (EveryTick.isOrderly (every.mono fun _ _ both => both.1)
      (every.mono fun _ _ both => both.2))
    rw [run_append] at accounted
    rw [← bar_run config before] at kept accounted ⊢
    refine (Model.ticks_nextModel (Model.identified_run config before) snapshot).every
      (Snapshot.placesIds_of_distinct isDistinct)
      (Roster.lasting_isAdmitted snapshot keepDeclared unignored)
      (fun key workspace present =>
        ⟨referred key workspace present, Or.inl (kept key workspace present)⟩)
      (fun workspace report taken adopted => Model.keeps_of_adopted taken adopted) ?_
    intro key origin present unreported admitted
    rw [Workspace.keeps_observe_of_unreported snapshot unreported]
    refine admitted.kept.resolve_right fun lost => (accounted key _ present).notLost ⟨?_, ?_⟩
    · rw [Workspace.id_observe, unreported]
    · rw [Workspace.name_observe_of_unreported _ snapshot unreported]
      exact lost.2

/-- After every run with distinct ids, a tick leaves no workspace under a name that is to be left
out, and takes in every workspace that is reported. It takes in those that are not reported too if
all the changes that were carried out have left declared workspaces in their places. -/
theorem admitted_tick [Pattern.Engine] (config : BarConfig) (inputs : List Input)
    {snapshot : Snapshot}
    (distinct : EveryTick IsDistinct (ofConfig config) (inputs ++ [.snapshot snapshot])) :
    ∀ key workspace,
      ((run config inputs).tick snapshot).model.workspaces.get? key = some workspace →
      (Bar.ofConfig config).leavesOut workspace.name = false ∧
        (workspace.id.isSome = true → Model.keeps (Bar.ofConfig config) workspace = true) ∧
        (EveryTick IsPlacid (ofConfig config) (inputs ++ [.snapshot snapshot]) →
          Model.keeps (Bar.ofConfig config) workspace = true) := by
  intro key workspace present
  have there := Model.roster_of_get? present
  have included := leavesOut_run distinct
  rw [run_append] at included
  refine ⟨included key workspace.outline there, fun reported => ?_, fun placid => ?_⟩
  · obtain ⟨id, own⟩ := Option.isSome_iff_exists.mp reported
    have ticks := Model.ticks_nextModel (Model.identified_run config inputs) snapshot
    obtain ⟨report, -, taken, adopted⟩ :=
      ticks.faithful (Snapshot.placesIds_of_distinct distinct.last) key _ there id own
    rw [bar_run] at taken
    exact Model.keeps_of_adopted taken ((Workspace.adopt_outline_iff workspace report).mp adopted)
  · have kept := keeps_run distinct placid
    rw [run_append] at kept
    exact kept key workspace.outline there

theorem admitted_tick_returningRun :
    EveryTick IsDistinct (ofConfig boundConfig)
        (returningRun "y" ++ [.snapshot (snapshotOf "x" "HDMI-A-1")]) ∧
      EveryTick IsPlacid (ofConfig boundConfig)
        (returningRun "y" ++ [.snapshot (snapshotOf "x" "HDMI-A-1")]) ∧
      ∀ key workspace,
        ((run boundConfig (returningRun "y")).tick
          (snapshotOf "x" "HDMI-A-1")).model.workspaces.get? key = some workspace →
        (Bar.ofConfig boundConfig).leavesOut workspace.name = false ∧
          Model.keeps (Bar.ofConfig boundConfig) workspace = true := by
  have distinct : EveryTick IsDistinct (ofConfig boundConfig)
      (returningRun "y" ++ [.snapshot (snapshotOf "x" "HDMI-A-1")]) :=
    ⟨List.nodup_singleton _, List.nodup_singleton _, List.nodup_singleton _, trivial⟩
  have declared : ∀ name, (Bar.ofConfig boundConfig).declares name = true → name = "web" := by
    intro name declares
    obtain ⟨raw, member, shown⟩ := List.any_eq_true.mp declares
    have persistent : (Bar.ofConfig boundConfig).persistent = ["web"] := by decide
    rw [persistent, List.mem_singleton] at member
    rw [← of_decide_eq_true shown, member]
    decide
  have keep : WorkspaceChange.KeepDeclared (Bar.ofConfig boundConfig)
      [.destroyed (some 7) "y", .created (some 1) "x", .moved "x" "HDMI-A-1"] := by
    constructor
    · intro raw monitor moved
      simp only [List.mem_cons, WorkspaceChange.moved.injEq, reduceCtorEq, List.not_mem_nil,
        or_false, false_or] at moved
      refine Or.inr fun name declares => ?_
      rw [declared name declares, moved.1]
      decide
    · intro id raw renamed
      simp at renamed
  have placid : EveryTick IsPlacid (ofConfig boundConfig)
      (returningRun "y" ++ [.snapshot (snapshotOf "x" "HDMI-A-1")]) := by
    have idle : WorkspaceChange.KeepDeclared (Bar.ofConfig boundConfig) [] :=
      ⟨fun _ _ moved => absurd moved List.not_mem_nil,
        fun _ _ renamed => absurd renamed List.not_mem_nil⟩
    have still : WorkspaceChange.Apart [] :=
      fun _ _ _ _ destroyed => absurd destroyed List.not_mem_nil
    exact ⟨⟨idle, still⟩, ⟨keep, apart_returningRun⟩, ⟨idle, still⟩, trivial⟩
  refine ⟨distinct, placid, fun key workspace present => ?_⟩
  obtain ⟨included, -, kept⟩ :=
    admitted_tick boundConfig (returningRun "y") distinct key workspace present
  exact ⟨included, kept placid⟩

/-- A declared workspace on an output that the bar is not for is left over when it was moved there,
and a special one when it was renamed, though the bar shows none. A lost workspace is left over
where it was moved. -/
theorem not_admitted_displaced :
    (((run boundConfig [.snapshot (snapshotOf "web" "DP-1"),
        .event (.workspace (.moved "web" "HDMI-A-1"))]).tick
          (snapshotOf "web" "HDMI-A-1")).model.workspaces.values.map fun workspace =>
            (workspace.name, workspace.output, Model.keeps (Bar.ofConfig boundConfig) workspace)) =
        [("web", "HDMI-A-1", false)] ∧
      (((run boundConfig [.snapshot (snapshotOf "web" "DP-1"),
        .event (.workspace (.renamed 1 "special:web"))]).tick
          (snapshotOf "special:web" "DP-1")).model.workspaces.values.map fun workspace =>
            (workspace.name, workspace.flags.special,
              Model.keeps (Bar.ofConfig boundConfig) workspace)) =
        [("web", true, false)] ∧
      (((run boundConfig (returningRun "x")).tick
        (snapshotOf "x" "HDMI-A-1")).model.workspaces.values.map fun workspace =>
          (workspace.name, workspace.output, Model.keeps (Bar.ofConfig boundConfig) workspace)) =
        [("x", "HDMI-A-1", false), ("web", "DP-1", true)] := by
  decide

end Tracker

end Deskbar
