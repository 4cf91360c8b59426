/-
This file says when a workspace is urgent. It is so after a tick that carries on if it is not active
and either has been urgent before or had an alarm in this tick: a change that marks as urgent a
window which is on the workspace at that time, or which is on no workspace and is counted to this
one by the snapshot. What else happens to workspaces and windows in a tick leaves urgency alone,
except that a workspace that is removed and stays, since the configuration keeps it, is not urgent
any longer.

The removals of a tick are followed by the keys of the workspaces that they are about.
-/

import Deskbar.Proofs.Folds
import Deskbar.Proofs.Locality

namespace Deskbar

namespace Model

/-! ### Workspaces that are removed -/

/-- The key of the workspace that an announced destruction removes. -/
def removedByDestruction (model : Model) : WorkspaceChange → List Nat
  | .destroyed id raw => ((model.destroyed? id raw).map Workspace.key).toList
  | _ => []

/-- The key of a workspace that changes, if the bar does not take in such a workspace. -/
def removedUnlessKept (bar : Bar) (key : Nat) (change : Workspace → Workspace) (model : Model) :
    List Nat :=
  match model.workspaces.get? key with
  | none => []
  | some workspace => if keeps bar (change workspace) then [] else [key]

/-- The key of the workspace that a change which is not a removal removes all the same. -/
def removedByChange (bar : Bar) (model : Model) : WorkspaceChange → List Nat
  | .renamed id raw =>
    match model.withId? id with
    | some workspace =>
      model.removedUnlessKept bar workspace.key fun workspace => workspace.rename raw
    | none => []
  | .moved raw monitor =>
    match model.named? raw with
    | some workspace =>
      model.removedUnlessKept bar workspace.key fun workspace => workspace.withOutput monitor
    | none => []
  | _ => []

/-- The keys of the workspaces whose reports are gone. -/
def staleKeys (bar : Bar) (snapshot : Snapshot) (model : Model) : List Nat :=
  (model.workspaces.values.filter (isStale bar snapshot)).map Workspace.key

/-- The keys of the workspaces that are removed in the work on workspaces. -/
def removedByWork (bar : Bar) (snapshot : Snapshot) (changes : List WorkspaceChange)
    (model : Model) : List Nat :=
  let left := model.removeDestroyed snapshot changes
  noted (removeIfDestroyed snapshot) removedByDestruction model changes ++
    noted (applyChange bar snapshot) (removedByChange bar) left changes ++
      (left.applyChanges bar snapshot changes).staleKeys bar snapshot

/-- Whether there is an urgent workspace under a key. -/
def IsUrgent (model : Model) (key : Nat) : Prop := model.urgency key = some true

section Urgency

variable {model : Model} {key other : Nat}

theorem isUrgent_of_urgency {after : Model} (same : after.urgency = model.urgency) :
    after.IsUrgent key ↔ model.IsUrgent key := by rw [IsUrgent, IsUrgent, same]

theorem isUrgent_iff_of_get? {workspace : Workspace}
    (present : model.workspaces.get? key = some workspace) :
    model.IsUrgent key ↔ workspace.flags.urgent = true := by
  rw [IsUrgent, urgency_of_get? present, Option.some.injEq]

/-- A removed workspace is gone or not urgent, and the others are as urgent as before. -/
theorem isUrgent_remove (snapshot : Snapshot) :
    (model.remove snapshot key).IsUrgent other ↔ model.IsUrgent other ∧ other ≠ key := by
  by_cases same : other = key
  · subst same
    refine iff_of_false ?_ fun both => both.2 rfl
    cases present : model.workspaces.get? other with
    | none =>
      rw [remove_of_absent snapshot present, IsUrgent, urgency, present]
      exact fun urgent => by cases urgent
    | some workspace =>
      rw [remove_eq snapshot present,
        isUrgent_of_urgency (foldl_view urgency (urgency_abandon snapshot) _ _), IsUrgent, urgency,
        withoutWindows]
      split
      · rw [get?_update_self present]
        exact fun urgent => by cases urgent
      · rw [SortedMap.get?_erase_self]
        exact fun urgent => by cases urgent
  · rw [IsUrgent, urgency_remove_of_ne model snapshot same, ← IsUrgent]
    exact (and_iff_left same).symm

/-- A workspace that is added and is not urgent changes nothing about who is urgent. -/
theorem isUrgent_of_added {after : Model} (identified : model.Identified)
    (added : after.urgency = Function.update model.urgency (model.lastKey + 1) (some false)) :
    after.IsUrgent key ↔ model.IsUrgent key := by
  by_cases new : key = model.lastKey + 1
  · rw [IsUrgent, IsUrgent, added, new, Function.update_self, urgency, identified.get?_next]
    exact iff_of_false (fun urgent => by cases urgent) fun urgent => by cases urgent
  · rw [IsUrgent, added, Function.update_of_ne new, IsUrgent]

theorem isUrgent_ensure (identified : model.Identified) (bar : Bar) (snapshot : Snapshot)
    (report : ReportedWorkspace) :
    (model.ensure bar snapshot report).IsUrgent key ↔ model.IsUrgent key :=
  (urgency_ensure bar snapshot report model).elim isUrgent_of_urgency
    (isUrgent_of_added identified)

theorem isUrgent_addDeclared (identified : model.Identified) (bar : Bar) (raw : String) :
    (model.addDeclared bar raw).IsUrgent key ↔ model.IsUrgent key := by
  rw [addDeclared]
  dsimp only
  split
  · exact isUrgent_of_added identified (urgency_insert _ _ model)
  · rfl

/-- A workspace that changes stays as urgent as it is, unless it is removed as it is not kept. -/
theorem isUrgent_unlessKept {next after : Model} (snapshot : Snapshot) (kept : Bool)
    (same : next.urgency = model.urgency) (followed : after.urgency = next.urgency) :
    (if kept then after else next.remove snapshot key).IsUrgent other ↔
      model.IsUrgent other ∧ other ∉ if kept then [] else [key] := by
  cases kept with
  | true =>
    exact (isUrgent_of_urgency (followed.trans same)).trans (and_iff_left List.not_mem_nil).symm
  | false =>
    exact (isUrgent_remove snapshot).trans
      (and_congr (isUrgent_of_urgency same) List.mem_singleton.not.symm)

/-! ### Announced changes of workspaces -/

theorem isUrgent_removeIfDestroyed (snapshot : Snapshot) (change : WorkspaceChange) :
    (model.removeIfDestroyed snapshot change).IsUrgent key ↔
      model.IsUrgent key ∧ key ∉ model.removedByDestruction change := by
  cases change with
  | destroyed id raw =>
    rw [removeIfDestroyed, removedByDestruction]
    cases model.destroyed? id raw with
    | none => exact (and_iff_left List.not_mem_nil).symm
    | some workspace =>
      exact (isUrgent_remove snapshot).trans (and_congr_right' List.mem_singleton.not.symm)
  | _ => exact (and_iff_left List.not_mem_nil).symm

theorem isUrgent_rename (bar : Bar) (snapshot : Snapshot) (raw : String) :
    (model.rename bar snapshot key raw).IsUrgent other ↔
      model.IsUrgent other ∧
        other ∉ model.removedUnlessKept bar key fun workspace => workspace.rename raw := by
  rw [removedUnlessKept]
  unfold Model.rename
  cases present : model.workspaces.get? key with
  | none => exact (and_iff_left List.not_mem_nil).symm
  | some workspace =>
    refine isUrgent_unlessKept snapshot _ (urgency_update fun _ found => ?_) (urgency_claim ..)
    rw [← Option.some.inj (present.symm.trans found)]
    rfl

theorem isUrgent_relocate (bar : Bar) (snapshot : Snapshot) (output : String) :
    (model.relocate bar snapshot key output).IsUrgent other ↔
      model.IsUrgent other ∧
        other ∉ model.removedUnlessKept bar key fun workspace => workspace.withOutput output := by
  rw [removedUnlessKept]
  unfold Model.relocate
  cases present : model.workspaces.get? key with
  | none => exact (and_iff_left List.not_mem_nil).symm
  | some workspace =>
    refine isUrgent_unlessKept snapshot _ (urgency_update fun _ found => ?_) rfl
    rw [← Option.some.inj (present.symm.trans found)]
    rfl

theorem isUrgent_ensureNamed (identified : model.Identified) (bar : Bar) (snapshot : Snapshot)
    (raw : String) : (model.ensureNamed bar snapshot raw).IsUrgent key ↔ model.IsUrgent key := by
  rw [ensureNamed]
  split
  · exact isUrgent_ensure identified ..
  · rfl

theorem isUrgent_applyChange (identified : model.Identified) (bar : Bar) (snapshot : Snapshot)
    (change : WorkspaceChange) :
    (model.applyChange bar snapshot change).IsUrgent key ↔
      model.IsUrgent key ∧ key ∉ model.removedByChange bar change := by
  have nobody : key ∉ ([] : List Nat) := List.not_mem_nil
  cases change with
  | destroyed id raw => exact (and_iff_left nobody).symm
  | created id raw =>
    refine Iff.trans ?_ (and_iff_left nobody).symm
    rw [applyChange.eq_def]
    dsimp only
    split
    · exact isUrgent_ensure identified ..
    · rfl
  | renamed id raw =>
    rw [applyChange, removedByChange]
    cases model.withId? id with
    | some workspace => exact isUrgent_rename ..
    | none => exact (and_iff_left nobody).symm
  | moved raw monitor =>
    rw [applyChange, removedByChange]
    cases model.named? raw with
    | some workspace => exact isUrgent_relocate ..
    | none => exact (isUrgent_ensureNamed identified ..).trans (and_iff_left nobody).symm
  | activated raw =>
    refine Iff.trans ?_ (and_iff_left nobody).symm
    rw [applyChange]
    cases model.named? raw with
    | some workspace => rfl
    | none => exact isUrgent_ensureNamed identified ..

/-! ### Loops over workspaces -/

theorem isUrgent_foldl_remove (snapshot : Snapshot) (keys : List Nat) (model : Model) :
    (keys.foldl (fun model key => model.remove snapshot key) model).IsUrgent other ↔
      model.IsUrgent other ∧ other ∉ keys := by
  induction keys generalizing model with
  | nil => exact (and_iff_left List.not_mem_nil).symm
  | cons key rest inductionHypothesis =>
    rw [List.foldl_cons, inductionHypothesis, isUrgent_remove, List.mem_cons, not_or, and_assoc]

/-- A loop of which no step changes who is urgent does not change it. -/
theorem isUrgent_foldl {Item : Type} {step : Model → Item → Model}
    (kept : ∀ next : Model, next.Identified → ∀ item, (step next item).Identified)
    (same : ∀ next : Model, next.Identified → ∀ item,
      ((step next item).IsUrgent key ↔ next.IsUrgent key))
    (items : List Item) (identified : model.Identified) :
    (items.foldl step model).IsUrgent key ↔ model.IsUrgent key :=
  (List.foldlRecOn items step
    (motive := fun next => next.Identified ∧ (next.IsUrgent key ↔ model.IsUrgent key))
    ⟨identified, Iff.rfl⟩
    fun next reached item _ =>
      ⟨kept next reached.1 item, (same next reached.1 item).trans reached.2⟩).2

/-- After the work on workspaces those are urgent that have been so before and are not removed. -/
theorem isUrgent_work (identified : model.Identified) (bar : Bar) (snapshot : Snapshot)
    (changes : List WorkspaceChange) (excluded : List String) :
    ((((model.removeDestroyed snapshot changes).applyChanges bar snapshot changes).align bar
      snapshot excluded).addAllDeclared bar).IsUrgent key ↔
      model.IsUrgent key ∧ key ∉ model.removedByWork bar snapshot changes := by
  have left := identified.removeDestroyed snapshot changes
  have changed := left.applyChanges bar snapshot changes
  rw [removedByWork, List.mem_append, List.mem_append, not_or, not_or, ← and_assoc, ← and_assoc]
  -- The loops are taken back from the last one on: two that change nothing and three that remove.
  calc _ ↔ (((model.removeDestroyed snapshot changes).applyChanges bar snapshot changes).align bar
        snapshot excluded).IsUrgent key :=
      isUrgent_foldl (fun _ kept raw => kept.addDeclared bar raw)
        (fun _ kept raw => isUrgent_addDeclared kept bar raw) bar.persistent
        (changed.align bar snapshot excluded)
    _ ↔ (((model.removeDestroyed snapshot changes).applyChanges bar snapshot changes).removeStale
        bar snapshot).IsUrgent key :=
      isUrgent_foldl (fun _ kept report => kept.ensure bar snapshot report)
        (fun _ kept report => isUrgent_ensure kept bar snapshot report) _
        (changed.removeStale bar snapshot)
    _ ↔ ((model.removeDestroyed snapshot changes).applyChanges bar snapshot changes).IsUrgent key ∧
        key ∉ ((model.removeDestroyed snapshot changes).applyChanges bar snapshot
          changes).staleKeys bar snapshot := isUrgent_foldl_remove ..
    _ ↔ ((model.removeDestroyed snapshot changes).IsUrgent key ∧ _) ∧ _ :=
      and_congr_left' (foldl_iff_not_mem_noted Identified (fun next : Model => next.IsUrgent key)
        (fun _ kept change => kept.applyChange bar snapshot change)
        (fun _ kept change => isUrgent_applyChange kept bar snapshot change) left)
    _ ↔ ((model.IsUrgent key ∧ _) ∧ _) ∧ _ :=
      and_congr_left' (and_congr_left' (foldl_iff_not_mem_noted Identified
        (fun next : Model => next.IsUrgent key)
        (fun _ kept change => kept.removeIfDestroyed snapshot change)
        (fun _ _ change => isUrgent_removeIfDestroyed snapshot change) identified))

end Urgency

/-! ### Alarms -/

/-- Whether a change is an alarm for the workspace under a key: it marks as urgent a window which is
on the workspace, or which is on no workspace and is counted by the snapshot to the id that the
workspace has. -/
def Alarms (snapshot : Snapshot) (key : Nat) (model : Model) : WindowChange → Prop
  | .urgent address =>
    model.ownerOf? address = some (.workspace key) ∨
      (∀ other, model.ownerOf? address ≠ some (.workspace other)) ∧
        ∃ report, snapshot.window? (plainAddress address) = some report ∧
          ∃ workspace, model.workspaces.get? key = some workspace ∧
            workspace.id = some report.workspace.id
  | _ => False

section Alarms

variable {model : Model} {bar : Bar} {snapshot : Snapshot} {key : Nat} {change : WindowChange}

theorem workspaceOf?_iff_of_elsewhere (identified : model.Identified) {address : String}
    (elsewhere : ∀ other, model.owners.get? address ≠ some (.workspace other)) :
    model.workspaceOf? snapshot address = some key ↔
      ∃ report, snapshot.window? address = some report ∧
        ∃ workspace, model.workspaces.get? key = some workspace ∧
          workspace.id = some report.workspace.id := by
  have reported : model.workspaceOf? snapshot address =
      ((snapshot.window? address).bind fun report => model.withId? report.workspace.id).map
        Workspace.key := by
    rw [workspaceOf?]
    split
    · next owner owned => exact absurd owned (elsewhere owner)
    · rfl
  rw [reported, Option.map_eq_some_iff]
  constructor
  · rintro ⟨workspace, found, rfl⟩
    obtain ⟨report, listed, counted⟩ := Option.bind_eq_some_iff.mp found
    exact ⟨report, listed, workspace, identified.withId? counted⟩
  · rintro ⟨report, listed, workspace, present, counted⟩
    refine ⟨workspace, ?_, identified.keyed present⟩
    rw [listed]
    exact identified.withId?_eq_some present counted

/-- The changes that make a workspace urgent are the alarms for it. -/
theorem marks?_eq_some_iff (identified : model.Identified) :
    model.marks? snapshot change = some key ↔ model.Alarms snapshot key change := by
  cases change with
  | urgent address =>
    rw [marks?, Alarms]
    by_cases owned : ∃ owner, model.ownerOf? address = some (.workspace owner)
    · obtain ⟨owner, owned⟩ := owned
      have found : model.workspaceOf? snapshot (plainAddress address) = some owner := by
        rw [workspaceOf?, ← ownerOf?, owned]
      rw [found, owned, Option.some.injEq, Option.some.injEq, Owner.workspace.injEq]
      exact (or_iff_left fun elsewhere => elsewhere.1 owner rfl).symm
    · have elsewhere := not_exists.mp owned
      rw [workspaceOf?_iff_of_elsewhere identified elsewhere, or_iff_right (elsewhere key)]
      exact (and_iff_right elsewhere).symm
  | _ => exact iff_of_false (fun marked => by cases marked) id

theorem isUrgent_applyWindowChange {workspace : Workspace}
    (present : model.workspaces.get? key = some workspace) :
    (model.applyWindowChange bar snapshot change).IsUrgent key ↔
      model.IsUrgent key ∨ key ∈ (model.marks? snapshot change).toList := by
  rw [IsUrgent, urgency_applyWindowChange, Option.mem_toList]
  split
  · next marked =>
    rw [urgency_of_get? present]
    exact iff_of_true rfl (Or.inr marked)
  · next unmarked => exact (or_iff_left unmarked).symm

/-- When changes of windows have been carried out, a workspace is urgent if it has been so before or
one of the changes was an alarm for it when its turn came. -/
theorem isUrgent_applyWindowChanges (identified : model.Identified) {workspace : Workspace}
    (present : model.workspaces.get? key = some workspace) (changes : List WindowChange) :
    (model.applyWindowChanges bar snapshot changes).IsUrgent key ↔
      model.IsUrgent key ∨ ∃ earlier change later, changes = earlier ++ change :: later ∧
        (model.applyWindowChanges bar snapshot earlier).Alarms snapshot key change := by
  have stays : ∀ next : Model, (∃ workspace, next.workspaces.get? key = some workspace) →
      ∀ change, ∃ workspace,
        (next.applyWindowChange bar snapshot change).workspaces.get? key = some workspace := by
    rintro next ⟨there, found⟩ change
    obtain ⟨other, remains, -⟩ :=
      get?_of_outline (outline_applyWindowChange bar snapshot next change).symm found
    exact ⟨other, remains⟩
  have followed : (changes.foldl (applyWindowChange bar snapshot) model).IsUrgent key ↔
      model.IsUrgent key ∨ key ∈ noted (applyWindowChange bar snapshot)
        (fun next change => (next.marks? snapshot change).toList) model changes :=
    foldl_iff_or_mem_noted _ (fun next : Model => next.IsUrgent key) stays
      (fun _ ⟨_, found⟩ _ => isUrgent_applyWindowChange found) ⟨workspace, present⟩
  refine followed.trans (or_congr_right (mem_noted_iff.trans ?_))
  refine exists_congr fun earlier => exists_congr fun change => exists_congr fun later =>
    and_congr_right fun _ => ?_
  rw [Option.mem_toList]
  exact marks?_eq_some_iff
    (identified.of_outline (outline_applyWindowChanges bar snapshot earlier model))

end Alarms

/-! ### The end of a tick -/

section Observation

variable {model : Model} {bar : Bar} {snapshot : Snapshot} {key : Nat} {workspace : Workspace}

/-- A workspace on the monitor with the focus is on some monitor. -/
theorem showsVisible_of_showsActive (active : snapshot.showsActive workspace = true) :
    snapshot.showsVisible workspace = true := by
  obtain ⟨id, reported, shown⟩ := (Option.any_eq_true ..).mp active
  obtain ⟨monitor, inFocus, shows⟩ := (Option.any_eq_true ..).mp shown
  refine (Option.any_eq_true ..).mpr ⟨id, reported, List.any_eq_true.mpr ⟨monitor, ?_, shows⟩⟩
  exact List.mem_of_find?_eq_some inFocus

theorem visible_observe (bar : Bar) (snapshot : Snapshot) (workspace : Workspace) :
    (workspace.observe bar snapshot).flags.visible = snapshot.showsVisible workspace := by
  have same : (workspace.reported snapshot).id = workspace.id :=
    Workspace.id_observe bar snapshot workspace
  show snapshot.showsVisible (workspace.reported snapshot) = _
  rw [Snapshot.showsVisible, same, ← Snapshot.showsVisible]

/-- When flags have been made out, a workspace is urgent if it has been before and is not active. -/
theorem urgent_iff_of_observe
    (present : (model.observe bar snapshot).workspaces.get? key = some workspace) :
    workspace.flags.urgent = true ↔ workspace.flags.active = false ∧ model.IsUrgent key := by
  obtain ⟨former, found, -⟩ := origin_observe present
  rw [urgency_observe bar snapshot found present, isUrgent_iff_of_get? found, Bool.and_eq_true,
    Bool.not_eq_true', and_comm]

/-- When flags have been made out, every active workspace is visible. -/
theorem visible_of_observe
    (present : (model.observe bar snapshot).workspaces.get? key = some workspace)
    (active : workspace.flags.active = true) : workspace.flags.visible = true := by
  rw [get?_observe] at present
  obtain ⟨former, -, rfl⟩ := Option.map_eq_some_iff.mp present
  exact (visible_observe bar snapshot former).trans
    (showsVisible_of_showsActive ((active_observe bar snapshot former).symm.trans active))

end Observation

end Model

/-! ### Ticks and runs -/

namespace Tracker

/-- The keys of the workspaces that a tick which carries on removes, also of those that stay since
the configuration keeps them. -/
def removed (snapshot : Snapshot) (tracker : Tracker) : List Nat :=
  tracker.model.removedByWork tracker.bar snapshot tracker.backlog.workspaces

/-- Before the flags are made out in a tick that carries on, a workspace is urgent if it has been so
before the tick and is not removed, or there has been an alarm for it. -/
theorem isUrgent_midway {tracker : Tracker} (identified : tracker.model.Identified)
    (snapshot : Snapshot) {key : Nat} {workspace : Workspace}
    (present : (tracker.midway snapshot tracker.backlog.windows).workspaces.get? key =
      some workspace) :
    (tracker.midway snapshot tracker.backlog.windows).IsUrgent key ↔
      (tracker.model.IsUrgent key ∧ key ∉ tracker.removed snapshot) ∨
        ∃ earlier change later, tracker.backlog.windows = earlier ++ change :: later ∧
          (tracker.midway snapshot earlier).Alarms snapshot key change := by
  have worked : (tracker.midway snapshot []).Identified :=
    (Model.stepwise_identified tracker.bar snapshot).beforeWindowChanges
      tracker.backlog.workspaces tracker.model identified
  obtain ⟨former, there, -⟩ := Model.get?_of_outline (Model.outline_applyWindowChanges tracker.bar
    snapshot tracker.backlog.windows (tracker.midway snapshot [])) present
  refine (Model.isUrgent_applyWindowChanges worked there tracker.backlog.windows).trans ?_
  exact or_congr_left (Model.isUrgent_work identified ..)

/-- After every run a tick that carries on leaves a workspace urgent exactly if it is not active and
either has been urgent before the tick, and is not removed in it, or one of the changes that wait is
an alarm for it when its turn comes. After every tick whatsoever no workspace is both urgent and
active, and every active one is visible. -/
theorem urgent_tick [Pattern.Engine] (config : BarConfig) (inputs : List Input)
    (snapshot : Snapshot) :
    let tracker := run config inputs
    let after := (tracker.tick snapshot).model
    (tracker.startsOver = false → ∀ key workspace, after.workspaces.get? key = some workspace →
      (workspace.flags.urgent = true ↔
        workspace.flags.active = false ∧
          ((∃ former, tracker.model.workspaces.get? key = some former ∧
              former.flags.urgent = true ∧ key ∉ tracker.removed snapshot) ∨
            ∃ earlier change later, tracker.backlog.windows = earlier ++ change :: later ∧
              (tracker.midway snapshot earlier).Alarms snapshot key change))) ∧
    ∀ key workspace, after.workspaces.get? key = some workspace →
      ¬(workspace.flags.urgent = true ∧ workspace.flags.active = true) ∧
        (workspace.flags.active = true → workspace.flags.visible = true) := by
  intro tracker after
  refine ⟨fun carriesOn key workspace present => ?_, fun key workspace present =>
    ⟨fun both => ?_, Model.visible_of_observe present⟩⟩
  · have observed : after = ((tracker.midway snapshot tracker.backlog.windows).growOrphans
        tracker.bar tracker.model.orphans.keys).observe tracker.bar snapshot :=
      nextModel_of_not_startsOver carriesOn snapshot
    rw [observed] at present
    obtain ⟨former, found, -⟩ := Model.origin_observe present
    rw [Model.workspaces_growOrphans] at found
    have grown : ((tracker.midway snapshot tracker.backlog.windows).growOrphans tracker.bar
        tracker.model.orphans.keys).IsUrgent key ↔
        (tracker.midway snapshot tracker.backlog.windows).IsUrgent key := by
      rw [Model.IsUrgent, Model.urgency, Model.workspaces_growOrphans, Model.IsUrgent,
        Model.urgency]
    rw [Model.urgent_iff_of_observe present, grown,
      isUrgent_midway (Model.identified_run config inputs) snapshot found]
    refine and_congr_right' (or_congr_left ⟨?_, ?_⟩)
    · rintro ⟨urgent, stays⟩
      obtain ⟨before, there, wasUrgent⟩ := Option.map_eq_some_iff.mp urgent
      exact ⟨before, there, wasUrgent, stays⟩
    · rintro ⟨before, there, wasUrgent, stays⟩
      exact ⟨Option.map_eq_some_iff.mpr ⟨before, there, wasUrgent⟩, stays⟩
  · have inactive := ((Model.urgent_iff_of_observe present).mp both.1).1
    cases inactive.symm.trans both.2

/-- A window is closed and marked as urgent after that. -/
def alarmRun : List Input :=
  [.snapshot sampleSnapshot, .event (.window (.closed "cd")), .event (.window (.urgent "cd"))]

/-- The reports still count the closed window to its workspace, which is urgent after the tick. -/
theorem urgent_tick_alarmRun :
    (run {} alarmRun).startsOver = false ∧
      (run {} alarmRun).backlog.windows = [.closed "cd"] ++ .urgent "cd" :: [] ∧
      ((run {} alarmRun).midway sampleSnapshot [.closed "cd"]).Alarms sampleSnapshot 1
        (.urgent "cd") ∧
      ∃ workspace, ((run {} alarmRun).tick sampleSnapshot).model.workspaces.get? 1 =
        some workspace ∧ workspace.flags.active = false ∧ workspace.flags.urgent = true := by
  have carriesOn : (run {} alarmRun).startsOver = false := by decide
  have waiting : (run {} alarmRun).backlog.windows = [.closed "cd"] ++ .urgent "cd" :: [] := by
    decide
  have alarms : ((run {} alarmRun).midway sampleSnapshot [.closed "cd"]).Alarms sampleSnapshot 1
      (.urgent "cd") := by
    have closed : ((run {} alarmRun).midway sampleSnapshot [.closed "cd"]).ownerOf? "cd" =
        none := by decide
    have reported : (((run {} alarmRun).midway sampleSnapshot [.closed "cd"]).workspaces.get? 1).map
        Workspace.id = some (some 1) := by decide
    refine Or.inr ⟨fun other owned => absurd (owned.symm.trans closed) (Option.some_ne_none _),
      { address := "0xcd", windowClass := "term", workspace := ⟨1, "1"⟩ }, by decide, ?_⟩
    exact Option.map_eq_some_iff.mp reported
  have shown : (((run {} alarmRun).tick sampleSnapshot).model.workspaces.get? 1).map
      (fun workspace => workspace.flags.active) = some false := by decide
  obtain ⟨workspace, present, inactive⟩ := Option.map_eq_some_iff.mp shown
  refine ⟨carriesOn, waiting, alarms, workspace, present, inactive, ?_⟩
  exact ((urgent_tick {} alarmRun sampleSnapshot).1 carriesOn 1 workspace present).mpr
    ⟨inactive, Or.inr ⟨_, _, _, waiting, alarms⟩⟩

end Tracker

end Deskbar
