/-
This file says what the command for a raw name is about. A report gives its workspace a raw name,
whose lead tells special workspaces from others. A lookup drops the lead and takes the oldest
workspace that shows what is left, so the raw name of a report means its workspace exactly if no
older one shows the same name. An older one that does is reported under another lead, or it is not
reported at all.

A bar that starts over has the reported workspaces first and adds a declared one only where its name
means none, so on such a bar nothing but another lead stands in the way. This is the bar that the
program asks when it is told to show a workspace.
-/

import Deskbar.Program
import Deskbar.Proofs.Display
import Deskbar.Proofs.Names
import Deskbar.Proofs.Namesakes
import Deskbar.Proofs.Refreshing

namespace Deskbar

namespace Model

/-! ### The oldest of a name -/

/-- Whether every workspace older than the one under a key that shows what a raw name says is
reported under this raw name itself, not under one with another lead, and not left unreported. -/
def Unrivalled (snapshot : Snapshot) (raw : String) (key : Nat) (model : Model) : Prop :=
  ∀ other rival, model.workspaces.get? other = some rival → other < key →
    rival.name = shownName raw →
      ∃ report ∈ snapshot.workspaces, rival.id = some report.id ∧ report.name = raw

/-- A workspace that shows what a raw name says is found by it exactly if it is the oldest one that
does. -/
theorem Identified.named?_eq_some_iff {model : Model} (identified : model.Identified)
    {raw : String} {key : Nat} {workspace : Workspace}
    (present : model.workspaces.get? key = some workspace)
    (shown : workspace.name = shownName raw) :
    model.named? raw = some workspace ↔
      ∀ other rival, model.workspaces.get? other = some rival → rival.name = shownName raw →
        key ≤ other := by
  have called : model.nameAt? key = some (shownName raw) := by
    rw [nameAt?, present, Option.map_some, shown]
  constructor
  · intro found other rival otherPresent same
    have answers := identified.answers_of_named? found
    rw [identified.keyed present] at answers
    rcases answers with ⟨-, least⟩ | ⟨none, -⟩
    · have rivalCalled : model.nameAt? other = some (shownName raw) := by
        rw [nameAt?, otherPresent, Option.map_some, same]
      exact least rivalCalled
    · exact absurd called (none key)
  · intro oldest
    have answers : model.Answers raw key := by
      refine Or.inl ⟨called, fun other otherCalled => ?_⟩
      obtain ⟨rival, otherPresent, same⟩ := Option.map_eq_some_iff.mp otherCalled
      exact oldest other rival otherPresent same
    obtain ⟨found, looked, same⟩ := Option.map_eq_some_iff.mp (identified.named?_iff.mpr answers)
    have there := identified.named? looked
    rw [same, present] at there
    rw [looked, Option.some.inj there]

/-- Among reports with ids and raw names of their own, no rival is older than a workspace exactly if
it is the oldest one that shows its name. -/
theorem Identified.unrivalled_iff {model : Model} (identified : model.Identified)
    {snapshot : Snapshot} (named : (snapshot.workspaces.map ReportedWorkspace.name).Nodup)
    {report : ReportedWorkspace} (member : report ∈ snapshot.workspaces) {key : Nat}
    {workspace : Workspace} (present : model.workspaces.get? key = some workspace)
    (own : workspace.id = some report.id) :
    model.Unrivalled snapshot report.name key ↔
      ∀ other rival, model.workspaces.get? other = some rival →
        rival.name = shownName report.name → key ≤ other := by
  constructor
  · intro unrivalled other rival otherPresent same
    refine Nat.le_of_not_lt fun older => ?_
    obtain ⟨elder, elderMember, elderOwn, sameName⟩ :=
      unrivalled other rival otherPresent older same
    rw [List.inj_on_of_nodup_map named elderMember member sameName] at elderOwn
    exact older.ne (identified.distinct otherPresent present elderOwn own)
  · intro oldest other rival otherPresent older same
    exact absurd older (oldest other rival otherPresent same).not_gt

end Model

namespace Tracker

/-! ### Commands after a tick -/

/-- A workspace that is reported after a tick shows what the raw name of its report says. -/
theorem name_of_reported [Pattern.Engine] (config : BarConfig) (inputs : List Input)
    {snapshot : Snapshot}
    (distinct : (snapshot.workspaces.map ReportedWorkspace.id).Nodup)
    {report : ReportedWorkspace} (member : report ∈ snapshot.workspaces) {key : Nat}
    {workspace : Workspace}
    (present : ((run config inputs).tick snapshot).model.workspaces.get? key = some workspace)
    (own : workspace.id = some report.id) :
    workspace.name = shownName report.name ∧ (Bar.ofConfig config).takesReport report = true := by
  have ticks := Model.ticks_nextModel (Model.identified_run config inputs) snapshot
  obtain ⟨adopted, adoptedMember, taken, adopts⟩ :=
    ticks.faithful (Snapshot.placesIds_of_distinct distinct) key workspace.outline
      (Model.roster_of_get? present) report.id own
  have same : adopted.id = report.id :=
    Option.some.inj ((Workspace.id_of_adopted adopts).symm.trans own)
  rw [List.inj_on_of_nodup_map distinct adoptedMember member same] at taken adopts
  rw [bar_run] at taken
  have name := congrArg Workspace.name adopts
  exact ⟨name.symm, taken⟩

/-- The buttons with the id of a workspace are the one that is drawn for it, if the filters let it
through. -/
theorem mem_buttons_iff {tracker : Tracker} (shows : tracker.ShowsAll)
    (identified : tracker.model.Identified) {key : Nat} {workspace : Workspace} {id : Int}
    (present : tracker.model.workspaces.get? key = some workspace) (own : workspace.id = some id)
    (button : Button) :
    button ∈ tracker.buttons ∧ button.id = some id ↔
      workspace.passes tracker.bar.config = true ∧
        button = Button.ofWorkspace tracker.bar workspace := by
  rw [shows.buttons.mem_iff, List.mem_map]
  constructor
  · rintro ⟨⟨drawn, listed, rfl⟩, sameId⟩
    obtain ⟨known, passes⟩ := List.mem_filter.mp listed
    obtain ⟨other, otherPresent⟩ := SortedMap.mem_values_iff.mp known
    rw [identified.distinct otherPresent present sameId own, present] at otherPresent
    rw [Option.some.inj otherPresent]
    exact ⟨passes, rfl⟩
  · rintro ⟨passes, rfl⟩
    exact ⟨⟨workspace, List.mem_filter.mpr ⟨SortedMap.mem_values_iff.mpr ⟨key, present⟩, passes⟩,
      rfl⟩, own⟩

/-- After a tick on reports with ids and raw names of their own, the raw name of a report finds its
workspace exactly if no rival is older. -/
theorem named?_iff_unrivalled [Pattern.Engine] (config : BarConfig) (inputs : List Input)
    {snapshot : Snapshot}
    (distinct : (snapshot.workspaces.map ReportedWorkspace.id).Nodup)
    (named : (snapshot.workspaces.map ReportedWorkspace.name).Nodup)
    {report : ReportedWorkspace} (member : report ∈ snapshot.workspaces) {key : Nat}
    {workspace : Workspace}
    (present : ((run config inputs).tick snapshot).model.workspaces.get? key = some workspace)
    (own : workspace.id = some report.id) :
    ((run config inputs).tick snapshot).model.named? report.name = some workspace ↔
      ((run config inputs).tick snapshot).model.Unrivalled snapshot report.name key := by
  have identified : ((run config inputs).tick snapshot).model.Identified :=
    (Model.identified_run config inputs).nextModel snapshot
  have shown := (name_of_reported config inputs distinct member present own).1
  exact (identified.named?_eq_some_iff present shown).trans
    (identified.unrivalled_iff named member present own).symm

/-- The command for a name that finds a workspace is that of its button. -/
theorem command?_of_button [Pattern.Engine] (config : BarConfig) (inputs : List Input)
    {snapshot : Snapshot}
    {name : String} {key : Nat} {workspace : Workspace} {id : Int}
    (present : ((run config inputs).tick snapshot).model.workspaces.get? key = some workspace)
    (own : workspace.id = some id)
    (found : ((run config inputs).tick snapshot).model.named? name = some workspace)
    {button : Button} (drawn : button ∈ ((run config inputs).tick snapshot).buttons)
    (sameId : button.id = some id) :
    ((run config inputs).tick snapshot).command? name = some button.command := by
  have identified := (Model.identified_run config inputs).nextModel snapshot
  have shows := showsAll_tick (Model.identified_run config inputs) snapshot
  obtain ⟨-, rfl⟩ := (mem_buttons_iff shows identified present own button).mp ⟨drawn, sameId⟩
  rw [command?, found]
  rfl

/-- After every run and a tick on reports with ids and raw names of their own, the raw name of a
report finds its workspace exactly if no rival is older. Then the command for the raw name is that
of the workspace, and so that of its button. -/
theorem command_tick [Pattern.Engine] (config : BarConfig) (inputs : List Input)
    {snapshot : Snapshot}
    (distinct : (snapshot.workspaces.map ReportedWorkspace.id).Nodup)
    (named : (snapshot.workspaces.map ReportedWorkspace.name).Nodup)
    {report : ReportedWorkspace} (member : report ∈ snapshot.workspaces) {key : Nat}
    {workspace : Workspace}
    (present : ((run config inputs).tick snapshot).model.workspaces.get? key = some workspace)
    (own : workspace.id = some report.id) :
    let after := (run config inputs).tick snapshot
    (after.model.named? report.name = some workspace ↔
      after.model.Unrivalled snapshot report.name key) ∧
    (after.model.Unrivalled snapshot report.name key →
      after.command? report.name = some (workspace.command config.moveToMonitor) ∧
      ∀ button ∈ after.buttons, button.id = some report.id →
        after.command? report.name = some button.command) := by
  intro after
  have found := named?_iff_unrivalled config inputs distinct named member present own
  refine ⟨found, fun unrivalled => ⟨?_, fun button drawn sameId => ?_⟩⟩
  · have bar : after.bar = Bar.ofConfig config := bar_run config inputs
    rw [command?, found.mpr unrivalled, bar]
    rfl
  · exact command?_of_button config inputs present own (found.mpr unrivalled) drawn sameId

/-- A workspace is on the bar before the special one that shows its name. -/
def elderRun : List Input := [.snapshot (snapshotOf "web" "")]

/-- A bar with a special workspace of the same name finds the older one, which is not special. -/
theorem command_tick_elderRun :
    let after := (run { showSpecial := true } elderRun).tick twinSnapshot
    (twinSnapshot.workspaces.map ReportedWorkspace.id).Nodup ∧
      (twinSnapshot.workspaces.map ReportedWorkspace.name).Nodup ∧
      ∃ workspace, after.model.workspaces.get? 1 = some workspace ∧ workspace.id = some 1 ∧
        after.model.Unrivalled twinSnapshot "web" 1 ∧
        after.model.named? "web" = some workspace ∧
        ∀ button ∈ after.buttons, button.id = some 1 →
          after.command? "web" = some button.command := by
  intro after
  have distinct : (twinSnapshot.workspaces.map ReportedWorkspace.id).Nodup := by decide
  have named : (twinSnapshot.workspaces.map ReportedWorkspace.name).Nodup := by decide
  have member : ({ id := 1, name := "web" } : ReportedWorkspace) ∈ twinSnapshot.workspaces :=
    List.mem_cons_self
  obtain ⟨workspace, present⟩ := Option.isSome_iff_exists.mp
    (show (after.model.workspaces.get? 1).isSome = true by decide)
  have own : workspace.id = some 1 := by
    have ids : (after.model.workspaces.get? 1).bind Workspace.id = some 1 := by decide
    rwa [present] at ids
  have unrivalled : after.model.Unrivalled twinSnapshot "web" 1 := by
    intro other rival otherPresent older
    have keys : ∀ key ∈ after.model.workspaces.keys, 1 ≤ key := by decide
    exact absurd older (keys other (SortedMap.mem_keys_iff.mpr ⟨rival, otherPresent⟩)).not_gt
  obtain ⟨found, commanded⟩ :=
    command_tick { showSpecial := true } elderRun distinct named member present own
  exact ⟨distinct, named, workspace, present, own, unrivalled, found.mpr unrivalled,
    (commanded unrivalled).2⟩

/-- The name of a workspace finds another one when a special workspace that shows it is older, and
when one that is not reported is, which a creation announced too early has left behind. -/
theorem not_command_twinSnapshot :
    let shadowed := (run { showSpecial := true } []).tick twinSnapshot
    let doubled := (run boundConfig createdEarlyRun).tick handedSnapshot
    (shadowed.command? "web" = some "dispatch togglespecialworkspace web" ∧
      shadowed.buttons.map (fun button => (button.id, button.command)) =
        [(some (-98), "dispatch togglespecialworkspace web"), (some 1, "dispatch workspace 1")]) ∧
    doubled.command? "web" = some "dispatch workspace name:web" ∧
      doubled.buttons.map (fun button => (button.id, button.command)) =
        [(none, "dispatch workspace name:web"), (some 2, "dispatch workspace 2")] := by
  decide

end Tracker

/-! ### Bars that start over -/

/-- An observation leaves the name of a workspace that has adopted a report. -/
theorem Workspace.name_observe_of_adopted {bar : Bar} {snapshot : Snapshot}
    (places : snapshot.PlacesIds) {workspace : Workspace} {report : ReportedWorkspace}
    (member : report ∈ snapshot.workspaces) (adopted : workspace.adopt report = workspace) :
    (workspace.observe bar snapshot).name = workspace.name := by
  obtain ⟨first, firstMember, found, same⟩ := Snapshot.exists_byId? member
  have listed : snapshot.reportOf? workspace = some first := by
    rw [Snapshot.reportOf?, id_of_adopted adopted, Option.bind_some, found]
  have name := congrArg Workspace.name (adopt_observe bar listed)
  have ownName := congrArg Workspace.name adopted
  rw [← name, ← ownName]
  exact congrArg shownName (places first firstMember report member same).1

namespace Roster

variable {bar : Bar} {snapshot : Snapshot} {excluded : List String} {after : Roster}

/-- Whether every workspace that is not reported is the only one with its name, and every other one
has adopted a report. -/
structure IsFresh (snapshot : Snapshot) (roster : Roster) : Prop where
  adopted : roster.Every fun workspace => workspace.id.isSome = true →
    ∃ report ∈ snapshot.workspaces, workspace.adopt report = workspace
  alone : ∀ first second one other, roster first = some one → roster second = some other →
    one.id = none → one.name = other.name → first = second

/-- A declared workspace is added where its name means none. -/
theorem IsFresh.added {roster next : Roster} (fresh : roster.IsFresh snapshot) {raw : String}
    (added : roster.Added bar raw next) : next.IsFresh snapshot := by
  cases added with
  | idle => exact fresh
  | added absent unnamed taken =>
    constructor
    · refine fresh.adopted.update fun workspace same reported => ?_
      rw [← Option.some.inj same] at reported
      cases reported
    · intro first second one other found otherFound unreported same
      rcases update_eq_some_iff.mp found with ⟨rfl, new⟩ | ⟨_, before⟩ <;>
        rcases update_eq_some_iff.mp otherFound with ⟨rfl, otherNew⟩ | ⟨_, otherBefore⟩
      · rfl
      · refine absurd (Or.inl ?_) (unnamed second other otherBefore)
        rw [← same, ← Option.some.inj new]
        rfl
      · refine absurd (Or.inl ?_) (unnamed first one before)
        rw [same, ← Option.some.inj otherNew]
        rfl
      · exact fresh.alone first second one other before otherBefore unreported same

/-- When no workspaces are left over, one that is not reported is the only one with its name. -/
theorem Settles.alone_of_empty (settles : Settles bar snapshot excluded (fun _ => none) after)
    (places : snapshot.PlacesIds) :
    ∀ first second one other, after first = some one → after second = some other →
      one.id = none → one.name = other.name → first = second := by
  cases settles with
  | @intro aligned declared ensured added =>
    have adopted : aligned.Every fun workspace => workspace.id.isSome = true ∧
        ∃ report ∈ snapshot.workspaces, workspace.adopt report = workspace := by
      refine ensured.keeps (fun report member _ _ step every => ?_) fun _ _ present => by
        cases present
      refine every.ensured step fun workspace _ adopts => ⟨?_, report, ?_, adopts⟩
      · rw [Workspace.id_of_adopted adopts]
        rfl
      · exact (Snapshot.mem_inOrder_iff.mp member).1
    have fresh : declared.IsFresh snapshot := by
      refine added.keeps (fun _ _ _ _ step fresh => fresh.added step)
        ⟨fun key workspace present _ => (adopted key workspace present).2, ?_⟩
      intro first _ one _ found _ unreported
      have reported := (adopted first one found).1
      rw [unreported] at reported
      cases reported
    have named : ∀ key workspace, declared key = some workspace →
        (workspace.observe bar snapshot).name = workspace.name := by
      intro key workspace present
      cases own : workspace.id with
      | none => exact Workspace.name_observe_of_unreported bar snapshot own
      | some id =>
        obtain ⟨report, member, adopts⟩ :=
          fresh.adopted key workspace present (by rw [own]; rfl)
        exact Workspace.name_observe_of_adopted places member adopts
    intro first second one other found otherFound unreported same
    obtain ⟨origin, present, rfl⟩ := Option.map_eq_some_iff.mp found
    obtain ⟨otherOrigin, otherPresent, rfl⟩ := Option.map_eq_some_iff.mp otherFound
    rw [Workspace.id_observe] at unreported
    rw [named first origin present, named second otherOrigin otherPresent] at same
    exact fresh.alone first second origin otherOrigin present otherPresent unreported same

end Roster

namespace Tracker

/-- On a bar that starts over no rival is older than the workspace of a report if no two of the
reports that the bar takes in show one name. -/
theorem unrivalled_of_startsOver [Pattern.Engine] (config : BarConfig) (inputs : List Input)
    {snapshot : Snapshot}
    (startsOver : (run config inputs).startsOver = true)
    (distinct : (snapshot.workspaces.map ReportedWorkspace.id).Nodup)
    (apart : ∀ first ∈ snapshot.workspaces, ∀ second ∈ snapshot.workspaces,
      (Bar.ofConfig config).takesReport first = true →
      (Bar.ofConfig config).takesReport second = true →
      shownName first.name = shownName second.name → first = second)
    {report : ReportedWorkspace} (member : report ∈ snapshot.workspaces) {key : Nat}
    {workspace : Workspace}
    (present : ((run config inputs).tick snapshot).model.workspaces.get? key = some workspace)
    (own : workspace.id = some report.id) :
    ((run config inputs).tick snapshot).model.Unrivalled snapshot report.name key := by
  have places := Snapshot.placesIds_of_distinct distinct
  have identified := Model.identified_run config inputs
  obtain ⟨shown, taken⟩ := name_of_reported config inputs distinct member present own
  intro other rival otherPresent older same
  cases otherOwn : rival.id with
  | none =>
    cases Model.ticks_nextModel identified snapshot with
    | fresh _ settles =>
      refine absurd ?_ older.ne
      exact settles.alone_of_empty places other key rival.outline workspace.outline
        (Model.roster_of_get? otherPresent) (Model.roster_of_get? present) otherOwn
        (same.trans shown.symm)
    | caughtUp carriesOn => cases startsOver.symm.trans carriesOn
  | some id =>
    obtain ⟨elder, elderMember, -, rfl⟩ := (Model.ticks_nextModel identified snapshot).reported
      other rival.outline (Model.roster_of_get? otherPresent) id otherOwn
    obtain ⟨elderShown, elderTaken⟩ :=
      name_of_reported config inputs distinct elderMember otherPresent otherOwn
    rw [apart elder elderMember report member elderTaken taken (elderShown.symm.trans same)]
    exact ⟨report, member, rfl, rfl⟩

end Tracker

/-! ### The program -/

namespace Program

variable {State : Type} {connect : Connect State} {config : Config} {connection : Connection State}
  {state next : State} {snapshot : Snapshot}

/-- Told to show the workspace that a name means, the program has the command carried out that a
fresh bar has for the name. -/
theorem run_focus [Pattern.Engine]
    (connected : connect config.service.requestTimeout = .ok connection)
    (answered : connection.snapshot.run state = (.ok snapshot, next)) {name command : String}
    (commanded : ((Tracker.ofConfig config.bar).tick snapshot).command? name = some command) :
    (focus connect (.ok config) name).run state =
      match (connection.order command).run next with
      | (.ok _, last) => (.success "", last)
      | (.error error, last) => (.failure "" error.message, last) := by
  have refreshed := Tracker.run_refresh answered (Tracker.ofConfig config.bar)
  simp only [StateT.run] at refreshed
  simp only [focus, withBar, connected, bind, StateT.bind, StateT.run, refreshed, commanded]
  rcases (connection.order command).run next with ⟨error | done, last⟩ <;> rfl

/-- Told to show the workspace of a report, the program has the command of its button carried out,
if no two of the reports that its bar takes in show one name. -/
theorem run_focus_of_button [Pattern.Engine]
    (connected : connect config.service.requestTimeout = .ok connection)
    (answered : connection.snapshot.run state = (.ok snapshot, next))
    (distinct : (snapshot.workspaces.map ReportedWorkspace.id).Nodup)
    (named : (snapshot.workspaces.map ReportedWorkspace.name).Nodup)
    (apart : ∀ first ∈ snapshot.workspaces, ∀ second ∈ snapshot.workspaces,
      (Bar.ofConfig config.bar).takesReport first = true →
      (Bar.ofConfig config.bar).takesReport second = true →
      shownName first.name = shownName second.name → first = second)
    {report : ReportedWorkspace} (member : report ∈ snapshot.workspaces) {button : Button}
    (drawn : button ∈ ((Tracker.ofConfig config.bar).tick snapshot).buttons)
    (own : button.id = some report.id) :
    (focus connect (.ok config) report.name).run state =
      match (connection.order button.command).run next with
      | (.ok _, last) => (.success "", last)
      | (.error error, last) => (.failure "" error.message, last) := by
  have shows := Tracker.showsAll_tick (Model.identified_run config.bar []) snapshot
  obtain ⟨workspace, listed, rfl⟩ := List.mem_map.mp (shows.buttons.mem_iff.mp drawn)
  obtain ⟨key, present⟩ := SortedMap.mem_values_iff.mp (List.mem_filter.mp listed).1
  have unrivalled := Tracker.unrivalled_of_startsOver config.bar [] rfl distinct apart member
    present own
  have found := (Tracker.named?_iff_unrivalled config.bar [] distinct named member present own).mpr
    unrivalled
  exact run_focus connected answered
    (Tracker.command?_of_button config.bar [] present own found drawn own)

end Program

end Deskbar
