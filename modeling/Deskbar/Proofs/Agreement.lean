/-
This file shows that the workspaces agree with the reports once they have been aligned with them:
every report that the bar takes in has a workspace that has adopted it, and no workspace is
reported otherwise. What the workspaces were before does not matter. Stale ones are gone first, a
report goes to the workspace with its id or else to one that was not reported, and later reports
leave the workspaces of earlier ones alone.
-/

import Deskbar.Pattern.Compiled
import Deskbar.Proofs.Folds
import Deskbar.Proofs.Identity
import Deskbar.Proofs.Sorting

namespace Deskbar

/-- A report that was adopted can be adopted again without a change. -/
theorem Workspace.adopt_adopt (workspace : Workspace) (report : ReportedWorkspace) :
    (workspace.adopt report).adopt report = workspace.adopt report := rfl

theorem Workspace.id_of_adopted {workspace : Workspace} {report : ReportedWorkspace}
    (adopted : workspace.adopt report = workspace) : workspace.id = some report.id := by
  rw [← adopted]
  rfl

theorem Workspace.reference_of_adopted {workspace : Workspace} {report : ReportedWorkspace}
    (adopted : workspace.adopt report = workspace) :
    workspace.reference = workspaceReference report.name := by
  rw [← adopted]
  rfl

/-- A workspace has adopted a report when one with the same outline has. -/
theorem Workspace.adopted_of_outline {first second : Workspace} {report : ReportedWorkspace}
    (same : first.outline = second.outline) (adopted : second.adopt report = second) :
    first.adopt report = first := by
  rw [← adopt_outline_iff] at adopted ⊢
  rw [same, adopted]

namespace Model

/-! ### One report -/

section Ensure

variable {model : Model} {bar : Bar} {report : ReportedWorkspace}

/-- A workspace that was created for a report has adopted it. -/
theorem exists_adopted_of_create (bar : Bar) (report : ReportedWorkspace) (model : Model) :
    ∃ workspace, (model.create bar report).workspaces.get? (model.lastKey + 1) = some workspace ∧
      workspace.adopt report = workspace :=
  ⟨_, SortedMap.get?_insert_self .., rfl⟩

/-- A report that the bar takes in is adopted by a workspace. -/
theorem exists_adopted_of_ensure (identified : model.Identified) (snapshot : Snapshot)
    (taken : bar.takesReport report = true) :
    ∃ key workspace, (model.ensure bar snapshot report).workspaces.get? key = some workspace ∧
      workspace.adopt report = workspace := by
  cases found : model.forReport? report with
  | some workspace =>
    have outlined := outline_ensure_of_found taken snapshot found
    have adopted := get?_update_self (identified.forReport? found).1 fun workspace =>
      workspace.adopt report
    obtain ⟨after, afterPresent, same⟩ := get?_of_outline outlined.symm adopted
    exact ⟨_, after, afterPresent, Workspace.adopted_of_outline same (workspace.adopt_adopt report)⟩
  | none =>
    have outlined := outline_ensure_of_missing taken snapshot found
    obtain ⟨created, present, adopted⟩ := exists_adopted_of_create bar report model
    obtain ⟨after, afterPresent, same⟩ := get?_of_outline outlined.symm present
    exact ⟨_, after, afterPresent, Workspace.adopted_of_outline same adopted⟩

/-- A report leaves alone the workspaces that have the ids of others. -/
theorem get?_ensure_of_id_ne (identified : model.Identified) (snapshot : Snapshot) {key : Nat}
    {workspace : Workspace} {id : Int} (present : model.workspaces.get? key = some workspace)
    (reported : workspace.id = some id) (different : id ≠ report.id) :
    ∃ after, (model.ensure bar snapshot report).workspaces.get? key = some after ∧
      after.outline = workspace.outline := by
  cases taken : bar.takesReport report with
  | false =>
    rw [ensure_of_refused taken]
    exact ⟨workspace, present, rfl⟩
  | true =>
    cases found : model.forReport? report with
    | some other =>
      obtain ⟨otherPresent, otherReported⟩ := identified.forReport? found
      have apart : key ≠ other.key := by
        intro same
        rw [same, otherPresent] at present
        rw [← Option.some.inj present] at reported
        rcases otherReported with itsOwn | ⟨unreported, -⟩
        · exact different (Option.some.inj (reported.symm.trans itsOwn))
        · cases reported.symm.trans unreported
      refine get?_of_outline (outline_ensure_of_found taken snapshot found).symm ?_
      rw [update, SortedMap.get?_modify_of_ne _ _ apart, present]
    | none =>
      exact get?_of_outline (outline_ensure_of_missing taken snapshot found).symm
        (identified.get?_insert_next present _)

/-- A workspace that is reported after a report was one before, or has the id of the report. -/
theorem reported_of_ensure (snapshot : Snapshot) {key : Nat} {workspace : Workspace} {id : Int}
    (present : (model.ensure bar snapshot report).workspaces.get? key = some workspace)
    (reported : workspace.id = some id) :
    (bar.takesReport report = true ∧ id = report.id) ∨
      ∃ before, model.workspaces.get? key = some before ∧ before.id = some id := by
  cases taken : bar.takesReport report with
  | false =>
    rw [ensure_of_refused taken] at present
    exact Or.inr ⟨workspace, present, reported⟩
  | true =>
    cases found : model.forReport? report with
    | some other =>
      obtain ⟨changed, changedPresent, same⟩ :=
        get?_of_outline (outline_ensure_of_found taken snapshot found) present
      rw [← Workspace.id_of_outline same] at reported
      by_cases here : key = other.key
      · rw [update, here, SortedMap.get?_modify_self] at changedPresent
        obtain ⟨origin, -, rfl⟩ := Option.map_eq_some_iff.mp changedPresent
        exact Or.inl ⟨rfl, (Option.some.inj reported).symm⟩
      · rw [update, SortedMap.get?_modify_of_ne _ _ here] at changedPresent
        exact Or.inr ⟨changed, changedPresent, reported⟩
    | none =>
      obtain ⟨changed, changedPresent, same⟩ :=
        get?_of_outline (outline_ensure_of_missing taken snapshot found) present
      rw [← Workspace.id_of_outline same] at reported
      by_cases here : key = model.lastKey + 1
      · rw [create, here, SortedMap.get?_insert_self] at changedPresent
        rw [← Option.some.inj changedPresent] at reported
        exact Or.inl ⟨rfl, (Option.some.inj reported).symm⟩
      · rw [create, SortedMap.get?_insert_of_ne _ _ here] at changedPresent
        exact Or.inr ⟨changed, changedPresent, reported⟩

end Ensure

/-! ### Removal of stale workspaces -/

theorem get?_of_foldl_remove {snapshot : Snapshot} {keys : List Nat} {model : Model} {key : Nat}
    {workspace : Workspace} {id : Int}
    (found : (keys.foldl (fun model key => model.remove snapshot key) model).outline.workspaces.get?
      key = some workspace)
    (reported : workspace.id = some id) :
    key ∉ keys ∧ model.outline.workspaces.get? key = some workspace := by
  induction keys generalizing model with
  | nil => exact ⟨List.not_mem_nil, found⟩
  | cons first rest inductionHypothesis =>
    obtain ⟨notLater, before⟩ := inductionHypothesis found
    have different : key ≠ first := by
      intro same
      rw [same] at before
      rw [id_of_remove before] at reported
      cases reported
    rw [get?_outline_remove_of_ne model snapshot different] at before
    exact ⟨fun member => (List.mem_cons.mp member).elim different notLater, before⟩

/-- Whether every workspace that is reported has the id of a report that the bar takes in. -/
def Pruned (bar : Bar) (snapshot : Snapshot) (model : Model) : Prop :=
  ∀ key workspace id, model.workspaces.get? key = some workspace → workspace.id = some id →
    ∃ report ∈ snapshot.workspaces, bar.takesReport report = true ∧ report.id = id

theorem exists_report_of_not_isStale {bar : Bar} {snapshot : Snapshot} {workspace : Workspace}
    {id : Int} (fresh : isStale bar snapshot workspace = false)
    (reported : workspace.id = some id) :
    ∃ report ∈ snapshot.workspaces, bar.takesReport report = true ∧ report.id = id := by
  simp only [isStale, reported] at fresh
  split at fresh
  · cases fresh
  · next report found =>
    have same := List.find?_some found
    exact ⟨report, List.mem_of_find?_eq_some found, Bool.not_inj (y := true) fresh,
      of_decide_eq_true same⟩

theorem pruned_removeStale {model : Model} (identified : model.Identified) (bar : Bar)
    (snapshot : Snapshot) : (model.removeStale bar snapshot).Pruned bar snapshot := by
  intro key workspace id present reported
  have outlined : (model.removeStale bar snapshot).outline.workspaces.get? key =
      some workspace.outline := by
    rw [get?_outline, present, Option.map_some]
  obtain ⟨notStale, before⟩ := get?_of_foldl_remove outlined reported
  rw [get?_outline] at before
  obtain ⟨origin, originPresent, same⟩ := Option.map_eq_some_iff.mp before
  have originReported : origin.id = some id := (Workspace.id_of_outline same).trans reported
  refine exists_report_of_not_isStale (Bool.eq_false_iff.mpr fun stale => notStale ?_)
    originReported
  rw [← identified.keyed originPresent]
  refine List.mem_map_of_mem (List.mem_filter.mpr ⟨?_, stale⟩)
  exact SortedMap.mem_values_iff.mpr ⟨key, originPresent⟩

/-! ### All reports -/

/-- Every report that the bar takes in was adopted by a workspace, and every workspace that is
reported has adopted such a report. -/
structure Agrees (bar : Bar) (snapshot : Snapshot) (model : Model) : Prop where
  complete : ∀ report ∈ snapshot.workspaces, bar.takesReport report = true →
    ∃ key workspace, model.workspaces.get? key = some workspace ∧
      workspace.adopt report = workspace
  faithful : ∀ {key workspace id}, model.workspaces.get? key = some workspace →
    workspace.id = some id → ∃ report ∈ snapshot.workspaces, bar.takesReport report = true ∧
      report.id = id ∧ workspace.adopt report = workspace

theorem Pruned.ensure {model : Model} {bar : Bar} {snapshot : Snapshot}
    (pruned : model.Pruned bar snapshot) {report : ReportedWorkspace}
    (member : report ∈ snapshot.workspaces) :
    (model.ensure bar snapshot report).Pruned bar snapshot := by
  intro key workspace id present reported
  rcases reported_of_ensure snapshot present reported with ⟨taken, same⟩ | ⟨before, found, had⟩
  · exact ⟨report, member, taken, same.symm⟩
  · exact pruned key before id found had

theorem Pruned.foldl_ensure {model : Model} {bar : Bar} {snapshot : Snapshot}
    (pruned : model.Pruned bar snapshot) {reports : List ReportedWorkspace}
    (listed : ∀ report ∈ reports, report ∈ snapshot.workspaces) :
    (reports.foldl (fun model report => model.ensure bar snapshot report) model).Pruned bar
      snapshot :=
  List.foldlRecOn reports _ (motive := fun next => Pruned bar snapshot next) pruned
    fun _ kept report member => kept.ensure (listed report member)

/-- Of reports with ids of their own each one that the bar takes in has been adopted when all of
them have been taken in, as no other one touches the workspace that has adopted it. -/
theorem exists_adopted_of_foldl_ensure {bar : Bar} {snapshot : Snapshot}
    {reports : List ReportedWorkspace} (distinct : (reports.map ReportedWorkspace.id).Nodup)
    {report : ReportedWorkspace} (member : report ∈ reports)
    (taken : bar.takesReport report = true) {model : Model} (identified : model.Identified) :
    ∃ key workspace,
      (reports.foldl (fun model report => model.ensure bar snapshot report) model).workspaces.get?
        key = some workspace ∧ workspace.adopt report = workspace := by
  refine foldl_of_mem Identified (fun next : Model => ∃ key workspace,
      next.workspaces.get? key = some workspace ∧ workspace.adopt report = workspace)
    member ?_ ?_ ?_ identified
  · exact fun next kept other _ => kept.ensure bar snapshot other
  · exact fun next kept => exists_adopted_of_ensure kept snapshot taken
  · intro next kept ⟨key, workspace, present, adopted⟩ other otherMember different
    have otherId : report.id ≠ other.id := fun same =>
      different (List.inj_on_of_nodup_map distinct otherMember member same.symm)
    obtain ⟨after, afterPresent, same⟩ := get?_ensure_of_id_ne kept snapshot present
      (Workspace.id_of_adopted adopted) otherId
    exact ⟨key, after, afterPresent, Workspace.adopted_of_outline same adopted⟩

/-- After alignment every workspace that is reported is in the snapshot, and the bar takes it in. -/
theorem pruned_align {model : Model} (identified : model.Identified) (bar : Bar)
    (snapshot : Snapshot) (excluded : List String) :
    (model.align bar snapshot excluded).Pruned bar snapshot :=
  (pruned_removeStale identified bar snapshot).foldl_ensure fun _ member =>
    (sortBy_perm (compareOn ReportedWorkspace.id) snapshot.workspaces).mem_iff.mp
      (List.mem_of_mem_filter member)

/-- Alignment makes the workspaces agree with the reports, whatever they were before. -/
theorem agrees_align {model : Model} (identified : model.Identified) (bar : Bar)
    {snapshot : Snapshot} (distinct : (snapshot.workspaces.map ReportedWorkspace.id).Nodup) :
    (model.align bar snapshot []).Agrees bar snapshot := by
  have sorted := sortBy_perm (compareOn ReportedWorkspace.id) snapshot.workspaces
  have all : (sortBy (compareOn ReportedWorkspace.id) snapshot.workspaces).filter
      (fun report => !([] : List String).contains (shownName report.name)) =
      sortBy (compareOn ReportedWorkspace.id) snapshot.workspaces :=
    List.filter_eq_self.mpr fun _ _ => rfl
  have removed := identified.removeStale bar snapshot
  have complete : ∀ report ∈ snapshot.workspaces, bar.takesReport report = true →
      ∃ key workspace, (model.align bar snapshot []).workspaces.get? key = some workspace ∧
        workspace.adopt report = workspace := by
    intro report member taken
    rw [align, ensureAll, all]
    exact exists_adopted_of_foldl_ensure ((sorted.map _).nodup_iff.mpr distinct)
      (sorted.mem_iff.mpr member) taken removed
  refine ⟨complete, fun {key workspace id} present reported => ?_⟩
  obtain ⟨report, member, taken, same⟩ :=
    pruned_align identified bar snapshot [] key workspace id present reported
  obtain ⟨other, adopter, otherPresent, adopted⟩ := complete report member taken
  have here : key = other := by
    refine (identified.align bar snapshot []).distinct present otherPresent reported ?_
    rw [Workspace.id_of_adopted adopted, same]
  rw [here, otherPresent] at present
  exact ⟨report, member, taken, same, Option.some.inj present ▸ adopted⟩

/-! ### The rest of a tick -/

theorem Pruned.addAllDeclared {model : Model} {bar : Bar} {snapshot : Snapshot}
    (pruned : model.Pruned bar snapshot) : (model.addAllDeclared bar).Pruned bar snapshot := by
  refine List.foldlRecOn bar.persistent (addDeclared bar)
    (motive := fun next => Pruned bar snapshot next) pruned fun next kept raw _ => ?_
  rw [addDeclared]
  dsimp only
  split
  · intro key workspace id present reported
    rw [SortedMap.get?_insert] at present
    split at present
    · rw [← Option.some.inj present] at reported
      cases reported
    · exact kept key workspace id present reported
  · exact kept

theorem Pruned.of_outline {model next : Model} {bar : Bar} {snapshot : Snapshot}
    (pruned : model.Pruned bar snapshot) (same : next.outline = model.outline) :
    next.Pruned bar snapshot := by
  intro key workspace id present reported
  obtain ⟨origin, originPresent, outlined⟩ := get?_of_outline same present
  exact pruned key origin id originPresent ((Workspace.id_of_outline outlined).trans reported)

namespace Agrees

variable {model : Model} {bar : Bar} {snapshot : Snapshot}

theorem of_outline {next : Model} (agrees : model.Agrees bar snapshot)
    (same : next.outline = model.outline) : next.Agrees bar snapshot := by
  constructor
  · intro report member taken
    obtain ⟨key, workspace, present, adopted⟩ := agrees.complete report member taken
    obtain ⟨other, otherPresent, outlined⟩ := get?_of_outline same.symm present
    exact ⟨key, other, otherPresent, Workspace.adopted_of_outline outlined adopted⟩
  · intro key workspace id present reported
    obtain ⟨other, otherPresent, outlined⟩ := get?_of_outline same present
    obtain ⟨report, member, taken, itsOwn, adopted⟩ :=
      agrees.faithful otherPresent ((Workspace.id_of_outline outlined).trans reported)
    exact ⟨report, member, taken, itsOwn, Workspace.adopted_of_outline outlined.symm adopted⟩

theorem addDeclared (agrees : model.Agrees bar snapshot) (identified : model.Identified)
    (raw : String) : (model.addDeclared bar raw).Agrees bar snapshot := by
  rw [Model.addDeclared]
  dsimp only
  split
  · constructor
    · intro report member taken
      obtain ⟨key, workspace, present, adopted⟩ := agrees.complete report member taken
      exact ⟨key, workspace, identified.get?_insert_next present _, adopted⟩
    · intro key workspace id present reported
      rw [SortedMap.get?_insert] at present
      split at present
      · rw [← Option.some.inj present] at reported
        cases reported
      · exact agrees.faithful present reported
  · exact agrees

theorem addAllDeclared (agrees : model.Agrees bar snapshot) (identified : model.Identified) :
    (model.addAllDeclared bar).Agrees bar snapshot := by
  refine (List.foldlRecOn bar.persistent (Model.addDeclared bar)
    (motive := fun next => Agrees bar snapshot next ∧ Identified next) ⟨agrees, identified⟩
    fun next ⟨kept, keptIdentified⟩ raw _ => ?_).1
  exact ⟨kept.addDeclared keptIdentified raw, keptIdentified.addDeclared bar raw⟩

end Agrees

/-- Without announced destructions no name is excluded from an alignment. -/
theorem filterMap_destroyedName?_eq_nil {changes : List WorkspaceChange}
    (intact : ∀ id raw, .destroyed id raw ∉ changes) : changes.filterMap destroyedName? = [] := by
  refine List.filterMap_eq_nil_iff.mpr fun change member => ?_
  cases change with
  | destroyed id raw => exact absurd member (intact id raw)
  | _ => rfl

end Model

/-! ### Flags -/

/-- What a workspace is besides its windows. -/
structure Workspace.Standing where
  name : String
  special : Bool
  output : String
  windowCount : Nat
  active : Bool
  visible : Bool
  persistentRule : Bool
  persistentConfig : Bool
  deriving DecidableEq

/-- What a workspace is besides its windows. -/
def Workspace.standing (workspace : Workspace) : Workspace.Standing :=
  { name := workspace.name
    special := workspace.flags.special
    output := workspace.output
    windowCount := workspace.windowCount
    active := workspace.flags.active
    visible := workspace.flags.visible
    persistentRule := workspace.flags.persistentRule
    persistentConfig := workspace.flags.persistentConfig }

/-- What the workspace of a report is to be, made out from the snapshot and the bar alone. -/
def Snapshot.standingOf (snapshot : Snapshot) (bar : Bar) (report : ReportedWorkspace) :
    Workspace.Standing :=
  let name := WorkspaceName.parse report.name
  { name := name.shown
    special := name.special
    output := report.monitor
    windowCount := report.windows
    active := snapshot.monitorInFocus?.any fun monitor => monitor.shows report.id
    visible := snapshot.monitors.any fun monitor => monitor.shows report.id
    persistentRule := report.persistent || snapshot.rules.any fun rule =>
      rule.persistent && shownName rule.workspace = name.shown &&
        (rule.monitor.all fun monitor => monitor = report.monitor)
    persistentConfig := bar.declares name.shown }

/-- A monitor shows two workspaces at most, one of them special, and none under the id zero. -/
theorem ReportedMonitor.shows_iff {monitor : ReportedMonitor} {id : Int} :
    monitor.shows id = true ↔ id ≠ 0 ∧ (monitor.active.id = id ∨ monitor.special.id = id) := by
  simp only [shows, Bool.and_eq_true, Bool.or_eq_true, decide_eq_true_eq]

theorem Snapshot.byId?_of_mem {snapshot : Snapshot}
    (distinct : (snapshot.workspaces.map ReportedWorkspace.id).Nodup) {report : ReportedWorkspace}
    (member : report ∈ snapshot.workspaces) : snapshot.byId? report.id = some report := by
  cases found : snapshot.byId? report.id with
  | none => exact absurd (List.find?_eq_none.mp found report member) (by simp)
  | some other =>
    have same := List.find?_some found
    rw [List.inj_on_of_nodup_map distinct (List.mem_of_find?_eq_some found) member
      (of_decide_eq_true same)]

/-- A workspace is not stale when the bar takes in the report with its id. -/
theorem Model.isStale_eq_false {bar : Bar} {snapshot : Snapshot}
    (distinct : (snapshot.workspaces.map ReportedWorkspace.id).Nodup) {report : ReportedWorkspace}
    (member : report ∈ snapshot.workspaces) (taken : bar.takesReport report = true)
    {workspace : Workspace} (reported : workspace.id = some report.id) :
    Model.isStale bar snapshot workspace = false := by
  rw [isStale, reported]
  dsimp only
  rw [Snapshot.byId?_of_mem distinct member]
  exact (Bool.not_eq_false' ..).mpr taken

theorem Snapshot.reportOf?_of_mem {snapshot : Snapshot}
    (distinct : (snapshot.workspaces.map ReportedWorkspace.id).Nodup) {report : ReportedWorkspace}
    (member : report ∈ snapshot.workspaces) {workspace : Workspace}
    (reported : workspace.id = some report.id) : snapshot.reportOf? workspace = some report := by
  rw [reportOf?, reported, Option.bind_some, byId?_of_mem distinct member]

namespace Workspace

variable {workspace : Workspace} {snapshot : Snapshot} {report : ReportedWorkspace}

theorem reported_of_reportOf? (found : snapshot.reportOf? workspace = some report) :
    workspace.reported snapshot = workspace.adopt report := by
  rw [reported, found]

/-- An observed workspace has adopted its report. -/
theorem adopt_observe (bar : Bar) (found : snapshot.reportOf? workspace = some report) :
    (workspace.observe bar snapshot).adopt report = workspace.observe bar snapshot := by
  rw [observe, reported_of_reportOf? found]
  rfl

/-- What an observed workspace is follows from its report, whatever it was before. -/
theorem standing_observe (bar : Bar) (found : snapshot.reportOf? workspace = some report) :
    (workspace.observe bar snapshot).standing = snapshot.standingOf bar report := by
  have listed : snapshot.reportOf? (workspace.adopt report) = some report := by
    rw [Snapshot.reportOf?, Snapshot.id_of_reportOf? found] at found
    exact found
  have kept : snapshot.keepsByRule (workspace.adopt report) =
      (snapshot.standingOf bar report).persistentRule := by
    rw [Snapshot.keepsByRule, listed]
    rfl
  rw [observe, reported_of_reportOf? found]
  simp only [standing, kept]
  rfl

end Workspace

namespace Model

theorem workspaces_shareFocus (model : Model) :
    model.shareFocus.workspaces = model.focusWorkspaces.workspaces := by
  refine foldl_view workspaces (fun _ _ => ?_) model.orphans.keys model.focusWorkspaces
  rfl

theorem get?_observe (bar : Bar) (snapshot : Snapshot) (model : Model) (key : Nat) :
    (model.observe bar snapshot).workspaces.get? key =
      (model.workspaces.get? key).map fun workspace =>
        (workspace.observe bar snapshot).focusOn (snapshot.focusedAddress?.or model.focused) := by
  rw [observe, workspaces_shareFocus, focusWorkspaces, SortedMap.get?_mapValues,
    SortedMap.get?_mapValues, Option.map_map]
  rfl

/-- The workspaces of a model are those that a snapshot asks for, besides those that are not
reported. -/
structure Mirrors (bar : Bar) (snapshot : Snapshot) (model : Model) : Prop where
  reported : ∀ id,
    (∃ key workspace, model.workspaces.get? key = some workspace ∧ workspace.id = some id) ↔
      ∃ report ∈ snapshot.workspaces, bar.takesReport report = true ∧ report.id = id
  distinct : ∀ first second one other id, model.workspaces.get? first = some one →
    model.workspaces.get? second = some other → one.id = some id → other.id = some id →
    first = second
  standing : ∀ key workspace report, model.workspaces.get? key = some workspace →
    report ∈ snapshot.workspaces → workspace.id = some report.id →
    workspace.standing = snapshot.standingOf bar report

namespace Mirrors

variable {model : Model} {bar : Bar} {snapshot : Snapshot} {key : Nat} {workspace : Workspace}
  {report : ReportedWorkspace}

/-- A reported workspace is visible if some monitor shows it. -/
theorem visible_iff (mirrors : model.Mirrors bar snapshot)
    (present : model.workspaces.get? key = some workspace) (member : report ∈ snapshot.workspaces)
    (reported : workspace.id = some report.id) :
    workspace.flags.visible = true ↔
      report.id ≠ 0 ∧ ∃ monitor ∈ snapshot.monitors,
        monitor.active.id = report.id ∨ monitor.special.id = report.id := by
  have standing := mirrors.standing key workspace report present member reported
  have visible : workspace.flags.visible =
      snapshot.monitors.any fun monitor => monitor.shows report.id :=
    congrArg Workspace.Standing.visible standing
  simp only [visible, List.any_eq_true, ReportedMonitor.shows_iff]
  exact ⟨fun ⟨monitor, listed, shown, its⟩ => ⟨shown, monitor, listed, its⟩,
    fun ⟨shown, monitor, listed, its⟩ => ⟨monitor, listed, shown, its⟩⟩

/-- A reported workspace is active if the monitor with the focus shows it. -/
theorem active_iff (mirrors : model.Mirrors bar snapshot)
    (present : model.workspaces.get? key = some workspace) (member : report ∈ snapshot.workspaces)
    (reported : workspace.id = some report.id) :
    workspace.flags.active = true ↔
      report.id ≠ 0 ∧ ∃ monitor, snapshot.monitorInFocus? = some monitor ∧
        (monitor.active.id = report.id ∨ monitor.special.id = report.id) := by
  have standing := mirrors.standing key workspace report present member reported
  have active : workspace.flags.active =
      snapshot.monitorInFocus?.any fun monitor => monitor.shows report.id :=
    congrArg Workspace.Standing.active standing
  simp only [active, Option.any_eq_true, ReportedMonitor.shows_iff]
  exact ⟨fun ⟨monitor, listed, shown, its⟩ => ⟨shown, monitor, listed, its⟩,
    fun ⟨shown, monitor, listed, its⟩ => ⟨monitor, listed, shown, its⟩⟩

end Mirrors

section Observation

variable {model : Model} {bar : Bar} {snapshot : Snapshot}

/-- What a workspace has been before it was observed. -/
theorem origin_observe {key : Nat} {workspace : Workspace}
    (present : (model.observe bar snapshot).workspaces.get? key = some workspace) :
    ∃ origin, model.workspaces.get? key = some origin ∧ workspace.id = origin.id ∧
      ∀ report, snapshot.reportOf? origin = some report →
        workspace.adopt report = workspace ∧
          workspace.standing = snapshot.standingOf bar report := by
  rw [get?_observe] at present
  obtain ⟨origin, originPresent, rfl⟩ := Option.map_eq_some_iff.mp present
  refine ⟨origin, originPresent, Workspace.id_observe bar snapshot origin, fun report found => ?_⟩
  exact ⟨congrArg (Workspace.focusOn · _) (Workspace.adopt_observe bar found),
    Workspace.standing_observe bar found⟩

theorem Agrees.reported_eq_self (agrees : model.Agrees bar snapshot)
    (distinct : (snapshot.workspaces.map ReportedWorkspace.id).Nodup) {key : Nat}
    {workspace : Workspace} (present : model.workspaces.get? key = some workspace) :
    workspace.reported snapshot = workspace := by
  rw [Workspace.reported]
  split
  · next report found =>
    obtain ⟨other, member, -, same, adopted⟩ :=
      agrees.faithful present (Snapshot.id_of_reportOf? found)
    have listed := Snapshot.reportOf?_of_mem distinct member (Workspace.id_of_adopted adopted)
    rw [← Option.some.inj (listed.symm.trans found), adopted]
  · rfl

theorem Agrees.observe (agrees : model.Agrees bar snapshot)
    (distinct : (snapshot.workspaces.map ReportedWorkspace.id).Nodup) :
    (model.observe bar snapshot).Agrees bar snapshot := by
  constructor
  · intro report member taken
    obtain ⟨key, workspace, present, adopted⟩ := agrees.complete report member taken
    have found := Snapshot.reportOf?_of_mem distinct member (Workspace.id_of_adopted adopted)
    refine ⟨key, _, (get?_observe bar snapshot model key).trans (congrArg _ present), ?_⟩
    exact congrArg (Workspace.focusOn · _) (Workspace.adopt_observe bar found)
  · intro key workspace id present reported
    obtain ⟨origin, originPresent, same, adopts⟩ := origin_observe present
    rw [same] at reported
    obtain ⟨report, member, taken, itsOwn, -⟩ := agrees.faithful originPresent reported
    have found := Snapshot.reportOf?_of_mem distinct member (itsOwn ▸ reported)
    exact ⟨report, member, taken, itsOwn, (adopts report found).1⟩

/-- Once workspaces agree with the reports an observation makes them what the snapshot asks for. -/
theorem Agrees.mirrors_observe (agrees : model.Agrees bar snapshot) (identified : model.Identified)
    (distinct : (snapshot.workspaces.map ReportedWorkspace.id).Nodup) :
    (model.observe bar snapshot).Mirrors bar snapshot := by
  have observed := agrees.observe distinct
  constructor
  · intro id
    constructor
    · rintro ⟨key, workspace, present, reported⟩
      obtain ⟨report, member, taken, same, -⟩ := observed.faithful present reported
      exact ⟨report, member, taken, same⟩
    · rintro ⟨report, member, taken, rfl⟩
      obtain ⟨key, workspace, present, adopted⟩ := observed.complete report member taken
      exact ⟨key, workspace, present, Workspace.id_of_adopted adopted⟩
  · intro first second one other id found otherFound reported otherReported
    exact (identified.observe bar snapshot).distinct found otherFound reported otherReported
  · intro key workspace report present member reported
    obtain ⟨origin, -, same, adopts⟩ := origin_observe present
    exact (adopts report (Snapshot.reportOf?_of_mem distinct member (same ▸ reported))).2

end Observation

end Model

/-! ### Runs -/

namespace Tracker

/-- Unless the destruction of a workspace was announced, a tick makes out its flags from workspaces
that were aligned with all the reports, and to which the declared ones were added. -/
theorem exists_aligned_nextModel {tracker : Tracker} (identified : tracker.model.Identified)
    (snapshot : Snapshot) (intact : ∀ id raw, .destroyed id raw ∉ tracker.backlog.workspaces) :
    ∃ origin model : Model, origin.Identified ∧
      model.outline =
        ((origin.align tracker.bar snapshot []).addAllDeclared tracker.bar).outline ∧
      tracker.nextModel snapshot = model.observe tracker.bar snapshot := by
  rw [nextModel]
  split
  · have outlined := Model.outline_catchUp tracker.bar snapshot tracker.backlog tracker.model
    rw [Model.filterMap_destroyedName?_eq_nil intact] at outlined
    exact ⟨_, _, (identified.removeDestroyed snapshot _).applyChanges tracker.bar snapshot _,
      outlined, rfl⟩
  · exact ⟨_, _, Model.identified_cleared tracker.model, rfl, rfl⟩

/-- What a tick leaves agrees with its snapshot before the flags are made out. -/
theorem agrees_nextModel {tracker : Tracker} (identified : tracker.model.Identified)
    {snapshot : Snapshot} (distinct : (snapshot.workspaces.map ReportedWorkspace.id).Nodup)
    (intact : ∀ id raw, .destroyed id raw ∉ tracker.backlog.workspaces) :
    ∃ model : Model, model.Identified ∧ model.Agrees tracker.bar snapshot ∧
      tracker.nextModel snapshot = model.observe tracker.bar snapshot := by
  obtain ⟨origin, model, originIdentified, outlined, same⟩ :=
    exists_aligned_nextModel identified snapshot intact
  have aligned := originIdentified.align tracker.bar snapshot []
  have agrees := Model.agrees_align originIdentified tracker.bar distinct
  exact ⟨model, (aligned.addAllDeclared tracker.bar).of_outline outlined,
    (agrees.addAllDeclared aligned).of_outline outlined, same⟩

/-- After every run a tick makes the workspaces what its snapshot asks for, unless the destruction
of a workspace was announced since the last one. -/
theorem mirrors_tick [Pattern.Engine] (config : BarConfig) (inputs : List Input)
    {snapshot : Snapshot}
    (distinct : (snapshot.workspaces.map ReportedWorkspace.id).Nodup)
    (intact : ∀ id raw, .destroyed id raw ∉ (run config inputs).backlog.workspaces) :
    ((run config inputs).tick snapshot).model.Mirrors (Bar.ofConfig config) snapshot := by
  obtain ⟨model, identified, agrees, same⟩ :=
    agrees_nextModel (Model.identified_run config inputs) distinct intact
  rw [bar_run] at agrees same
  show ((run config inputs).nextModel snapshot).Mirrors _ _
  rw [same]
  exact agrees.mirrors_observe identified distinct

/-- Reports of one workspace on each of two monitors, the first of which has the focus. -/
def shownSnapshot : Snapshot :=
  { workspaces :=
      [{ id := 1, name := "1", monitor := "DP-1", windows := 2, persistent := true },
        { id := 2, name := "web", monitor := "HDMI-A-1" }]
    monitors :=
      [{ name := "DP-1", focused := true, active := ⟨1, "1"⟩ },
        { id := 1, name := "HDMI-A-1", active := ⟨2, "web"⟩ }] }

/-- A workspace gets another name after a tick, and the next snapshot does not have it yet. -/
def renamingRun : List Input :=
  [.snapshot shownSnapshot, .event (.workspace (.renamed 1 "mail"))]

/-- Both workspaces are visible after the tick, under the names in the snapshot, and the one on the
monitor with the focus is active. -/
theorem mirrors_tick_renamingRun :
    (shownSnapshot.workspaces.map ReportedWorkspace.id).Nodup ∧
      (∀ id raw, .destroyed id raw ∉ (run {} renamingRun).backlog.workspaces) ∧
      ((run {} renamingRun).tick shownSnapshot).model.Mirrors (Bar.ofConfig {}) shownSnapshot ∧
      ((run {} renamingRun).tick shownSnapshot).model.workspaces.values.map Workspace.standing =
        [{ name := "1", special := false, output := "DP-1", windowCount := 2, active := true,
            visible := true, persistentRule := true, persistentConfig := false },
          { name := "web", special := false, output := "HDMI-A-1", windowCount := 0,
            active := false, visible := true, persistentRule := false,
            persistentConfig := false }] := by
  have waiting : (run {} renamingRun).backlog.workspaces = [.renamed 1 "mail"] := by decide
  have intact : ∀ id raw, .destroyed id raw ∉ (run {} renamingRun).backlog.workspaces := by
    intro id raw
    rw [waiting, List.mem_singleton]
    intro same
    cases same
  exact ⟨by decide, intact, mirrors_tick {} renamingRun (by decide) intact, by decide⟩

end Tracker

end Deskbar
