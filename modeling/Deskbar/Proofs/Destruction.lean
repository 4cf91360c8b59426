/-
This file shows when a workspace whose destruction was announced stays away, although the snapshot
was made before and still reports it. All removals come before the other changes, so an earlier
change of the workspace is carried out after its removal. A creation that waited was cancelled by
the destruction, and a report under the destroyed name is left out when the reports come. A change
that asks for the workspace by its name is neither cancelled nor left out.
-/

import Deskbar.Proofs.Roster

namespace Deskbar

/-! ### Creations that were cancelled -/

/-- Whether the later one of two changes that wait does not destroy what the earlier one creates. -/
def WorkspaceChange.Stands (earlier later : WorkspaceChange) : Prop :=
  ∀ other id raw, earlier = .created other raw → later ≠ .destroyed id raw

namespace Backlog

/-- No creation waits for which a destruction was announced after it. -/
theorem pairwise_pushWorkspace {changes : List WorkspaceChange}
    (standing : changes.Pairwise WorkspaceChange.Stands) (change : WorkspaceChange) :
    (pushWorkspace changes change).Pairwise WorkspaceChange.Stands := by
  have append : ∀ earlier : List WorkspaceChange, earlier.Pairwise WorkspaceChange.Stands →
      (∀ before ∈ earlier, before.Stands change) →
      (earlier ++ [change]).Pairwise WorkspaceChange.Stands := by
    intro earlier kept last
    refine List.pairwise_append.mpr ⟨kept, List.pairwise_singleton _ _, fun before member => ?_⟩
    simpa using last before member
  have harmless : (∀ id raw, change ≠ .destroyed id raw) →
      (changes ++ [change]).Pairwise WorkspaceChange.Stands := fun other =>
    append changes standing fun _ _ _ id raw _ => other id raw
  cases change with
  | created id name =>
    rw [pushWorkspace]
    split
    · exact standing
    · exact harmless (by simp)
  | destroyed id name =>
    refine append _ (standing.filter _) fun before member other gone raw creation destruction => ?_
    have kept := (List.mem_filter.mp member).2
    simp [creation, (WorkspaceChange.destroyed.inj destruction).2, WorkspaceChange.creates] at kept
  | renamed id name => exact harmless (by simp)
  | moved name monitor => exact harmless (by simp)
  | activated name => exact harmless (by simp)

theorem pairwise_push {backlog : Backlog}
    (standing : backlog.workspaces.Pairwise WorkspaceChange.Stands) (event : Event) :
    (backlog.push event).workspaces.Pairwise WorkspaceChange.Stands := by
  cases event with
  | workspace change => exact pairwise_pushWorkspace standing change
  | _ => exact standing

end Backlog

/-- Where a destruction waits no creation of what it destroys does, if none was announced after it
and none under another name before it. The destruction has cancelled those under its name. -/
theorem WorkspaceChange.not_created_of_destroyed {before after : List WorkspaceChange} {id : Int}
    {raw : String}
    (standing : (before ++ .destroyed (some id) raw :: after).Pairwise WorkspaceChange.Stands)
    (uncreated : ∀ other name, .created other name ∈ after → other ≠ some id ∧ name ≠ raw)
    (created : ∀ name, .created (some id) name ∈ before → name = raw)
    {other : Option Int} {name : String} (member : .created other name ∈ before ++ after) :
    other ≠ some id ∧ name ≠ raw := by
  have cancelled : ∀ other, .created other raw ∉ before := fun other early =>
    (List.pairwise_append.mp standing).2.2 _ early _ List.mem_cons_self other (some id) raw rfl rfl
  rcases List.mem_append.mp member with early | late
  · have otherName : name ≠ raw := by
      rintro rfl
      exact cancelled other early
    refine ⟨?_, otherName⟩
    rintro rfl
    exact otherName (created name early)
  · exact uncreated other name late

namespace Tracker

theorem pairwise_run [Pattern.Engine] (config : BarConfig) (inputs : List Input) :
    (run config inputs).backlog.workspaces.Pairwise WorkspaceChange.Stands := by
  refine run_induction (motive := fun tracker =>
    tracker.backlog.workspaces.Pairwise WorkspaceChange.Stands) List.Pairwise.nil ?_
  intro tracker standing input _
  cases input with
  | event event => exact Backlog.pairwise_push standing event
  | snapshot snapshot => exact List.Pairwise.nil

end Tracker

/-! ### Ids that stay away -/

namespace Roster

variable {bar : Bar} {snapshot : Snapshot} {roster after : Roster} {id : Int}

theorem Cleared.lacks {raw : String} (distinct : roster.Distinct)
    (cleared : Cleared (.destroyed (some id) raw) roster after) : after.Lacks id := by
  cases cleared with
  | idle missing => exact missing id raw rfl
  | left present meant =>
    rcases meant id raw rfl with own | missing
    · refine distinct.lacks_update present own fun left same reported => ?_
      cases (Workspace.id_of_left? same).symm.trans reported
    · exact (BringsNoId.left present).lacks missing

/-- Once the announced destructions have been carried out no workspace has a destroyed id. -/
theorem lacks_of_clearing {changes : List WorkspaceChange} {raw : String}
    (clearing : Chained Cleared changes roster after)
    (member : .destroyed (some id) raw ∈ changes) (distinct : roster.Distinct) :
    after.Lacks id :=
  clearing.reaches member (fun _ _ _ _ cleared kept => cleared.bringsNoId.distinct kept)
    (fun _ _ cleared kept => cleared.lacks kept)
    (fun _ _ _ _ cleared missing => cleared.bringsNoId.lacks missing) distinct

/-- The other changes bring an id onto the bar only when one of them announces its report. -/
theorem lacks_of_changing {changes : List WorkspaceChange}
    (changing : Chained (Changed bar snapshot) changes roster after)
    (unannounced : ∀ change ∈ changes, ∀ report, snapshot.announced? change = some report →
      report.id ≠ id) (missing : roster.Lacks id) : after.Lacks id := by
  refine changing.keeps (fun change member before next changed stillMissing => ?_) missing
  rcases changed.bringsNoId with brings | ⟨report, announced, ensured⟩
  · exact brings.lacks stillMissing
  · exact Lacks.ensured stillMissing ensured (unannounced change member report announced)

/-- When the workspaces settle, an id comes onto the bar only with a report that is not excluded. -/
theorem Settles.lacks {excluded : List String}
    (settles : roster.Settles bar snapshot excluded after)
    (unlisted : ∀ report ∈ snapshot.inOrder excluded, report.id ≠ id)
    (missing : roster.Lacks id) : after.Lacks id := by
  obtain ⟨ensured, added⟩ := settles
  have pruned := (bringsNoId_prune bar snapshot roster).lacks missing
  have aligned := ensured.keeps (motive := fun next => Lacks next id)
    (fun report member _ _ step stillMissing =>
      Lacks.ensured stillMissing step (unlisted report member)) pruned
  have declared := added.keeps (motive := fun next => Lacks next id)
    (fun _ _ _ _ step stillMissing => step.bringsNoId.lacks stillMissing) aligned
  exact (bringsNoId_observed bar snapshot _).lacks declared

end Roster

/-- A report that changes announce does not have an id that is listed under one name only, unless
a change creates the id or the name, or asks for the id by a name. -/
theorem Snapshot.id_ne_of_announced? {snapshot : Snapshot} {changes : List WorkspaceChange}
    {id : Int} {raw : String}
    (listed : ∀ report ∈ snapshot.workspaces, report.id = id → report.name = raw)
    (uncreated : ∀ other name, .created other name ∈ changes → other ≠ some id ∧ name ≠ raw)
    (unasked : ∀ name report, snapshot.called? name = some report →
      (.activated name ∈ changes ∨ ∃ monitor, .moved name monitor ∈ changes) → report.id ≠ id)
    {change : WorkspaceChange} (member : change ∈ changes) {report : ReportedWorkspace}
    (announced : snapshot.announced? change = some report) : report.id ≠ id := by
  intro same
  cases change with
  | destroyed other name => cases announced
  | renamed other name => cases announced
  | activated name => exact unasked name report announced (Or.inl member) same
  | moved name monitor => exact unasked name report announced (Or.inr ⟨monitor, member⟩) same
  | created other name =>
    obtain ⟨otherId, otherName⟩ := uncreated other name member
    rcases created_of_announced? announced with byId | byName
    · exact otherId (byId.trans (congrArg some same))
    · exact otherName (byName.trans (listed report (mem_of_announced? announced) same))

/-- An id that is listed under one name only is on none of the reports that are left when that name
is excluded. -/
theorem Snapshot.id_ne_of_mem_inOrder {snapshot : Snapshot} {changes : List WorkspaceChange}
    {id : Int} {raw : String} {other : Option Int}
    (listed : ∀ report ∈ snapshot.workspaces, report.id = id → report.name = raw)
    (destruction : .destroyed other raw ∈ changes) :
    ∀ report ∈ snapshot.inOrder (changes.filterMap Model.destroyedName?), report.id ≠ id := by
  intro report member same
  obtain ⟨reported, included⟩ := mem_inOrder_iff.mp member
  refine included (List.mem_filterMap.mpr ⟨_, destruction, ?_⟩)
  rw [listed report reported same]
  rfl

namespace Tracker

/-- After every run, a tick that carries out the destruction of a workspace under an id leaves no
workspace with that id, though its snapshot may still report one under the destroyed name, if no
creation was announced after the destruction, none under another name before it, and no other change
in the batch asks for the workspace by a name. -/
theorem destroyed_tick [Pattern.Engine] (config : BarConfig) (inputs : List Input)
    {snapshot : Snapshot}
    (carriesOn : (run config inputs).startsOver = false) {before after : List WorkspaceChange}
    {id : Int} {raw : String}
    (waiting : (run config inputs).backlog.workspaces =
      before ++ .destroyed (some id) raw :: after)
    (uncreated : ∀ other name, .created other name ∈ after → other ≠ some id ∧ name ≠ raw)
    (listed : ∀ report ∈ snapshot.workspaces, report.id = id → report.name = raw)
    (created : ∀ name, .created (some id) name ∈ before → name = raw)
    (unasked : ∀ name report, snapshot.called? name = some report →
      (.activated name ∈ before ++ after ∨ ∃ monitor, .moved name monitor ∈ before ++ after) →
      report.id ≠ id) :
    ∀ key workspace,
      ((run config inputs).tick snapshot).model.workspaces.get? key = some workspace →
      workspace.id ≠ some id := by
  have identified := Model.identified_run config inputs
  have standing := pairwise_run config inputs
  rw [waiting] at standing
  have destruction : .destroyed (some id) raw ∈ (run config inputs).backlog.workspaces := by
    rw [waiting]
    exact List.mem_append_right _ List.mem_cons_self
  have elsewhere : ∀ change ∈ (run config inputs).backlog.workspaces,
      change = .destroyed (some id) raw ∨ change ∈ before ++ after := by
    intro change member
    rw [waiting, List.mem_append, List.mem_cons] at member
    rw [List.mem_append]
    tauto
  have unannounced : ∀ change ∈ (run config inputs).backlog.workspaces, ∀ report,
      snapshot.announced? change = some report → report.id ≠ id := by
    intro change member report announced
    refine Snapshot.id_ne_of_announced? listed ?_ unasked ?_ announced
    · exact fun other name =>
        WorkspaceChange.not_created_of_destroyed standing uncreated created
    · refine (elsewhere change member).resolve_left fun same => ?_
      rw [same] at announced
      cases announced
  intro key workspace present
  refine (?_ : Roster.Lacks _ id) key workspace.outline (Model.roster_of_get? present)
  cases Model.ticks_nextModel identified snapshot with
  | fresh startsOver _ => cases carriesOn.symm.trans startsOver
  | caughtUp _ clearing changing settles =>
    have cleared := Roster.lacks_of_clearing clearing destruction identified.distinct_roster
    have changed := Roster.lacks_of_changing changing unannounced cleared
    exact settles.lacks (Snapshot.id_ne_of_mem_inOrder listed destruction) changed

/-- A report of a workspace that has been destroyed since. -/
def staleSnapshot : Snapshot :=
  { workspaces := [{ id := 1, name := "1" }, { id := 5, name := "web" }] }

/-- A workspace is given its name, announced again and destroyed. -/
def destroyingRun : List Input :=
  [.snapshot staleSnapshot, .event (.workspace (.renamed 5 "web")),
    .event (.workspace (.created (some 5) "web")),
    .event (.workspace (.destroyed (some 5) "web"))]

theorem destroyed_tick_destroyingRun :
    (run {} destroyingRun).startsOver = false ∧
      (run {} destroyingRun).backlog.workspaces =
        [.renamed 5 "web"] ++ .destroyed (some 5) "web" :: [] ∧
      (∀ report ∈ staleSnapshot.workspaces, report.id = 5 → report.name = "web") ∧
      ∀ key workspace,
        ((run {} destroyingRun).tick staleSnapshot).model.workspaces.get? key = some workspace →
        workspace.id ≠ some 5 := by
  have waiting : (run {} destroyingRun).backlog.workspaces =
      [.renamed 5 "web"] ++ .destroyed (some 5) "web" :: [] := by decide
  have listed : ∀ report ∈ staleSnapshot.workspaces, report.id = 5 → report.name = "web" := by
    decide
  refine ⟨by decide, waiting, listed, ?_⟩
  exact destroyed_tick {} destroyingRun (by decide) waiting (by simp) listed (by simp) (by simp)

/-- A workspace is created, activated and destroyed between two ticks. -/
def passingRun : List Input :=
  [.snapshot sampleSnapshot, .event (.workspace (.created (some 5) "web")),
    .event (.workspace (.activated "web")), .event (.workspace (.destroyed (some 5) "web"))]

/-- A workspace is created under one name, given another one and destroyed under that. -/
def renamedAndDestroyedRun : List Input :=
  [.snapshot sampleSnapshot, .event (.workspace (.created (some 5) "a")),
    .event (.workspace (.renamed 5 "web")), .event (.workspace (.destroyed (some 5) "web"))]

/-- A workspace is given another name and destroyed under that. -/
def renamedAwayRun : List Input :=
  [.snapshot { workspaces := [{ id := 5, name := "a" }] },
    .event (.workspace (.renamed 5 "web")), .event (.workspace (.destroyed (some 5) "web"))]

/-- A destroyed workspace is back at once when it was activated before its destruction, created
under another name than it was destroyed under, or reported under another one. -/
theorem not_destroyed_passingRun :
    ((run {} passingRun).startsOver = false ∧
      (run {} passingRun).backlog.workspaces =
        [.activated "web"] ++ .destroyed (some 5) "web" :: [] ∧
      (∀ report ∈ staleSnapshot.workspaces, report.id = 5 → report.name = "web") ∧
      ((run {} passingRun).tick staleSnapshot).model.workspaces.values.map Workspace.id =
        [some 1, some 5]) ∧
    ((run {} renamedAndDestroyedRun).startsOver = false ∧
      (run {} renamedAndDestroyedRun).backlog.workspaces =
        [.created (some 5) "a", .renamed 5 "web"] ++ .destroyed (some 5) "web" :: [] ∧
      (∀ report ∈ staleSnapshot.workspaces, report.id = 5 → report.name = "web") ∧
      ((run {} renamedAndDestroyedRun).tick staleSnapshot).model.workspaces.values.map
        Workspace.id = [some 1, some 5]) ∧
    (run {} renamedAwayRun).startsOver = false ∧
      (run {} renamedAwayRun).backlog.workspaces =
        [.renamed 5 "web"] ++ .destroyed (some 5) "web" :: [] ∧
      ((run {} renamedAwayRun).tick
        { workspaces := [{ id := 5, name := "a" }] }).model.workspaces.values.map
          Workspace.id = [some 5] := by
  decide

end Tracker

end Deskbar
