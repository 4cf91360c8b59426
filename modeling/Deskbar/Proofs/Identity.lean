/-
This file says who a workspace is. Every workspace stands under its own key, keys are given out
in ascending order and never twice, and no id of the compositor is on two workspaces. All of this
holds at the end of every run, whatever the compositor announces and reports.

A lookup that finds a workspace therefore finds it under its key, and of an id it finds the only
one. The operations on workspaces are described here by what they do to the outline of a model.
-/

import Deskbar.Proofs.Outline
import Deskbar.Proofs.Run
import Deskbar.Proofs.Steps

namespace Deskbar

/-- Whether the bar takes in the workspace of a report. -/
def Bar.takesReport (bar : Bar) (report : ReportedWorkspace) : Bool :=
  bar.takes (shownName report.name) report.monitor (WorkspaceName.parse report.name).special

namespace Model

/-! ### Lookups -/

theorem first?_eq_some {model : Model} {test : Workspace → Bool} {workspace : Workspace}
    (found : model.first? test = some workspace) :
    (∃ key, model.workspaces.get? key = some workspace) ∧ test workspace = true :=
  ⟨SortedMap.mem_values_iff.mp (List.mem_of_find?_eq_some found), List.find?_some found⟩

theorem first?_eq_none_iff {model : Model} {test : Workspace → Bool} :
    model.first? test = none ↔
      ∀ key workspace, model.workspaces.get? key = some workspace → test workspace = false := by
  rw [first?, List.find?_eq_none]
  constructor
  · intro none key workspace found
    exact Bool.eq_false_iff.mpr (none workspace (SortedMap.mem_values_iff.mpr ⟨key, found⟩))
  · intro none workspace member
    obtain ⟨key, found⟩ := SortedMap.mem_values_iff.mp member
    exact Bool.eq_false_iff.mp (none key workspace found)

theorem withId?_eq_none_iff {model : Model} {id : Int} :
    model.withId? id = none ↔
      ∀ key workspace, model.workspaces.get? key = some workspace → workspace.id ≠ some id := by
  simp only [withId?, first?_eq_none_iff, decide_eq_false_iff_not]

/-! ### The invariant -/

/-- Workspaces stand under their own keys, which have been given out, and no two have one id. -/
structure Identified (model : Model) : Prop where
  keyed : ∀ {key workspace}, model.workspaces.get? key = some workspace → workspace.key = key
  bounded : ∀ {key workspace}, model.workspaces.get? key = some workspace → key ≤ model.lastKey
  distinct : ∀ {first second one other id}, model.workspaces.get? first = some one →
    model.workspaces.get? second = some other → one.id = some id → other.id = some id →
    first = second

theorem identified_empty : empty.Identified where
  keyed found := absurd found.symm (Option.some_ne_none _)
  bounded found := absurd found.symm (Option.some_ne_none _)
  distinct found := absurd found.symm (Option.some_ne_none _)

namespace Identified

variable {model : Model}

/-- A lookup finds a workspace under its own key. -/
theorem first? (identified : model.Identified) {test : Workspace → Bool} {workspace : Workspace}
    (found : model.first? test = some workspace) :
    model.workspaces.get? workspace.key = some workspace ∧ test workspace = true := by
  obtain ⟨⟨key, present⟩, passed⟩ := first?_eq_some found
  rw [identified.keyed present]
  exact ⟨present, passed⟩

theorem withId? (identified : model.Identified) {id : Int} {workspace : Workspace}
    (found : model.withId? id = some workspace) :
    model.workspaces.get? workspace.key = some workspace ∧ workspace.id = some id := by
  obtain ⟨present, passed⟩ := identified.first? found
  exact ⟨present, of_decide_eq_true passed⟩

/-- No workspace stands under the key that is given out next. -/
theorem get?_next (identified : model.Identified) :
    model.workspaces.get? (model.lastKey + 1) = none := by
  cases found : model.workspaces.get? (model.lastKey + 1) with
  | none => rfl
  | some workspace => exact absurd (identified.bounded found) (Nat.not_succ_le_self _)

/-- A workspace that is added leaves the others where they are. -/
theorem get?_insert_next (identified : model.Identified) {key : Nat} {workspace : Workspace}
    (present : model.workspaces.get? key = some workspace) (added : Workspace) :
    (model.workspaces.insert (model.lastKey + 1) added).get? key = some workspace := by
  have different : key ≠ model.lastKey + 1 :=
    Nat.ne_of_lt (Nat.lt_succ_of_le (identified.bounded present))
  rw [SortedMap.get?_insert_of_ne _ _ different, present]

/-- A lookup by an id finds the workspace that has it. -/
theorem withId?_eq_some (identified : model.Identified) {id : Int} {key : Nat}
    {workspace : Workspace} (present : model.workspaces.get? key = some workspace)
    (reported : workspace.id = some id) : model.withId? id = some workspace := by
  cases found : model.withId? id with
  | none => exact absurd reported (withId?_eq_none_iff.mp found key workspace present)
  | some other =>
    obtain ⟨otherPresent, otherReported⟩ := identified.withId? found
    have same := identified.distinct otherPresent present otherReported reported
    rw [same, present] at otherPresent
    exact otherPresent.symm

theorem named? (identified : model.Identified) {name : String} {workspace : Workspace}
    (found : model.named? name = some workspace) :
    model.workspaces.get? workspace.key = some workspace := by
  rcases Option.or_eq_some_iff.mp found with shown | ⟨-, referred⟩
  · exact (identified.first? shown).1
  · exact (identified.first? referred).1

theorem forReport? (identified : model.Identified) {report : ReportedWorkspace}
    {workspace : Workspace} (found : model.forReport? report = some workspace) :
    model.workspaces.get? workspace.key = some workspace ∧
      (workspace.id = some report.id ∨
        workspace.id = none ∧ workspace.name = shownName report.name ∧
          model.withId? report.id = none) := by
  rcases Option.or_eq_some_iff.mp found with reported | ⟨missing, unreported⟩
  · obtain ⟨present, same⟩ := identified.withId? reported
    exact ⟨present, Or.inl same⟩
  · obtain ⟨present, passed⟩ := identified.first? unreported
    simp only [Bool.and_eq_true, Option.isNone_iff_eq_none, decide_eq_true_eq] at passed
    exact ⟨present, Or.inr ⟨passed.1, passed.2, missing⟩⟩

/-! ### Changes that keep identities -/

theorem of_outline {other : Model} (identified : model.Identified)
    (same : other.outline = model.outline) : other.Identified := by
  constructor
  · intro key workspace found
    obtain ⟨origin, present, outlined⟩ := get?_of_outline same found
    rw [← Workspace.key_of_outline outlined, identified.keyed present]
  · intro key workspace found
    obtain ⟨origin, present, -⟩ := get?_of_outline same found
    rw [lastKey_of_outline same]
    exact identified.bounded present
  · intro first second one two id found otherFound reported otherReported
    obtain ⟨_, present, outlined⟩ := get?_of_outline same found
    obtain ⟨_, otherPresent, otherOutlined⟩ := get?_of_outline same otherFound
    exact identified.distinct present otherPresent
      ((Workspace.id_of_outline outlined).trans reported)
      ((Workspace.id_of_outline otherOutlined).trans otherReported)

/-- A workspace may change as it likes if it keeps its key and takes no id that another one
has. -/
theorem update (identified : model.Identified) {key : Nat} {change : Workspace → Workspace}
    (keyed : ∀ workspace, model.workspaces.get? key = some workspace →
      (change workspace).key = workspace.key)
    (own : ∀ workspace id, model.workspaces.get? key = some workspace →
      (change workspace).id = some id → workspace.id = some id ∨ model.withId? id = none) :
    (model.update key change).Identified := by
  have origin : ∀ {other changed}, (model.update key change).workspaces.get? other = some changed →
      ∃ workspace, model.workspaces.get? other = some workspace ∧ changed.key = workspace.key ∧
        ∀ id, changed.id = some id →
          workspace.id = some id ∨ other = key ∧ model.withId? id = none := by
    intro other changed found
    by_cases same : other = key
    · subst same
      rw [Model.update, SortedMap.get?_modify_self] at found
      obtain ⟨workspace, present, rfl⟩ := Option.map_eq_some_iff.mp found
      exact ⟨workspace, present, keyed workspace present, fun id reported =>
        (own workspace id present reported).imp_right fun missing => ⟨rfl, missing⟩⟩
    · rw [Model.update, SortedMap.get?_modify_of_ne _ _ same] at found
      exact ⟨changed, found, rfl, fun id reported => Or.inl reported⟩
  constructor
  · intro other changed found
    obtain ⟨workspace, present, same, -⟩ := origin found
    rw [same, identified.keyed present]
  · intro other changed found
    obtain ⟨workspace, present, -⟩ := origin found
    exact identified.bounded present
  · intro first second one other id firstFound secondFound firstReported secondReported
    obtain ⟨_, firstPresent, -, firstOrigin⟩ := origin firstFound
    obtain ⟨_, secondPresent, -, secondOrigin⟩ := origin secondFound
    rcases firstOrigin id firstReported with before | ⟨here, missing⟩
    · rcases secondOrigin id secondReported with otherBefore | ⟨-, missing⟩
      · exact identified.distinct firstPresent secondPresent before otherBefore
      · exact absurd before (withId?_eq_none_iff.mp missing _ _ firstPresent)
    · rcases secondOrigin id secondReported with before | ⟨otherHere, -⟩
      · exact absurd before (withId?_eq_none_iff.mp missing _ _ secondPresent)
      · rw [here, otherHere]

theorem erase (identified : model.Identified) (key : Nat) :
    { model with workspaces := model.workspaces.erase key }.Identified := by
  have origin : ∀ {other workspace}, (model.workspaces.erase key).get? other = some workspace →
      model.workspaces.get? other = some workspace := by
    intro other workspace found
    rw [SortedMap.get?_erase] at found
    split at found
    · exact absurd found (by simp)
    · exact found
  exact
    { keyed := fun found => identified.keyed (origin found)
      bounded := fun found => identified.bounded (origin found)
      distinct := fun found otherFound =>
        identified.distinct (origin found) (origin otherFound) }

/-- The next key is free for a workspace whose id no other one has. -/
theorem insert (identified : model.Identified) {workspace : Workspace}
    (keyed : workspace.key = model.lastKey + 1)
    (own : ∀ id, workspace.id = some id → model.withId? id = none) :
    { model with
      workspaces := model.workspaces.insert (model.lastKey + 1) workspace
      lastKey := model.lastKey + 1 }.Identified := by
  have origin : ∀ {key present},
      (model.workspaces.insert (model.lastKey + 1) workspace).get? key = some present →
        key = model.lastKey + 1 ∧ present = workspace ∨
          model.workspaces.get? key = some present := by
    intro key present found
    rw [SortedMap.get?_insert] at found
    split at found
    · next same => exact Or.inl ⟨same, (Option.some.inj found).symm⟩
    · exact Or.inr found
  constructor
  · intro key present found
    rcases origin found with ⟨same, rfl⟩ | old
    · rw [keyed, same]
    · exact identified.keyed old
  · intro key present found
    rcases origin found with ⟨same, -⟩ | old
    · exact Nat.le_of_eq same
    · exact Nat.le_succ_of_le (identified.bounded old)
  · intro first second one other id firstFound secondFound firstReported secondReported
    rcases origin firstFound with ⟨same, rfl⟩ | old <;>
      rcases origin secondFound with ⟨otherSame, rfl⟩ | otherOld
    · rw [same, otherSame]
    · exact absurd secondReported (withId?_eq_none_iff.mp (own id firstReported) _ _ otherOld)
    · exact absurd firstReported (withId?_eq_none_iff.mp (own id secondReported) _ _ old)
    · exact identified.distinct old otherOld firstReported secondReported

theorem mapValues (identified : model.Identified) {change : Workspace → Workspace}
    (keyed : ∀ workspace, (change workspace).key = workspace.key)
    (same : ∀ workspace, (change workspace).id = workspace.id) :
    { model with workspaces := model.workspaces.mapValues change }.Identified := by
  have origin : ∀ {key changed}, (model.workspaces.mapValues change).get? key = some changed →
      ∃ workspace, model.workspaces.get? key = some workspace ∧ changed = change workspace := by
    intro key changed found
    rw [SortedMap.get?_mapValues] at found
    obtain ⟨workspace, present, rfl⟩ := Option.map_eq_some_iff.mp found
    exact ⟨workspace, present, rfl⟩
  constructor
  · intro key changed found
    obtain ⟨workspace, present, rfl⟩ := origin found
    rw [keyed, identified.keyed present]
  · intro key changed found
    obtain ⟨workspace, present, rfl⟩ := origin found
    exact identified.bounded present
  · intro first second one other id firstFound secondFound firstReported secondReported
    obtain ⟨_, firstPresent, rfl⟩ := origin firstFound
    obtain ⟨_, secondPresent, rfl⟩ := origin secondFound
    rw [same] at firstReported secondReported
    exact identified.distinct firstPresent secondPresent firstReported secondReported

end Identified

/-! ### Removal -/

/-- Removal leaves a workspace that the configuration keeps without its windows and lets go of
it, and takes any other one away. -/
theorem outline_remove {model : Model} {key : Nat} {workspace : Workspace} (snapshot : Snapshot)
    (present : model.workspaces.get? key = some workspace) :
    (model.remove snapshot key).outline =
      if workspace.flags.persistentConfig then
        (model.update key fun workspace => workspace.clearWindows.letGo).outline
      else { model with workspaces := model.workspaces.erase key }.outline := by
  simp only [remove, present, foldl_view outline (outline_abandon snapshot)]
  split <;> rfl

theorem remove_of_absent {model : Model} {key : Nat} (snapshot : Snapshot)
    (absent : model.workspaces.get? key = none) : model.remove snapshot key = model := by
  rw [remove, absent]

/-- Removal of a workspace does not show on any other one. -/
theorem get?_outline_remove_of_ne (model : Model) {key other : Nat} (snapshot : Snapshot)
    (different : other ≠ key) :
    (model.remove snapshot key).outline.workspaces.get? other =
      model.outline.workspaces.get? other := by
  cases present : model.workspaces.get? key with
  | none => rw [remove_of_absent snapshot present]
  | some workspace =>
    rw [outline_remove snapshot present]
    split
    · rw [get?_outline, get?_outline, update, SortedMap.get?_modify_of_ne _ _ different]
    · rw [get?_outline, get?_outline, SortedMap.get?_erase_of_ne _ different]

/-- What is left of a removed workspace is not reported. -/
theorem id_of_remove {model : Model} {key : Nat} {snapshot : Snapshot} {left : Workspace}
    (found : (model.remove snapshot key).outline.workspaces.get? key = some left) :
    left.id = none := by
  cases present : model.workspaces.get? key with
  | none =>
    rw [remove_of_absent snapshot present, get?_outline, present] at found
    cases found
  | some workspace =>
    rw [outline_remove snapshot present] at found
    split at found
    · rw [get?_outline, update, SortedMap.get?_modify_self, present] at found
      rw [← Option.some.inj found]
      rfl
    · rw [get?_outline, SortedMap.get?_erase_self] at found
      cases found

theorem Identified.remove {model : Model} (identified : model.Identified) (snapshot : Snapshot)
    (key : Nat) : (model.remove snapshot key).Identified := by
  cases present : model.workspaces.get? key with
  | none => rwa [remove_of_absent snapshot present]
  | some workspace =>
    have left := outline_remove snapshot present
    split at left
    · refine Identified.of_outline ?_ left
      exact identified.update (fun _ _ => rfl) fun _ _ _ reported =>
        absurd reported.symm (Option.some_ne_none _)
    · exact (identified.erase key).of_outline left

/-! ### Reports -/

theorem ensure_of_refused {bar : Bar} {report : ReportedWorkspace}
    (refused : bar.takesReport report = false) (snapshot : Snapshot) (model : Model) :
    model.ensure bar snapshot report = model :=
  if_neg (Bool.eq_false_iff.mp refused)

theorem ensure_of_found {bar : Bar} {report : ReportedWorkspace} {model : Model}
    {workspace : Workspace} (taken : bar.takesReport report = true) (snapshot : Snapshot)
    (found : model.forReport? report = some workspace) :
    model.ensure bar snapshot report =
      let adopted := model.update workspace.key fun workspace => workspace.adopt report
      if workspace.id.isSome then adopted.claim bar workspace.key
      else (adopted.gather bar snapshot workspace.key report.id).claim bar workspace.key := by
  refine (if_pos taken).trans ?_
  simp only [found]

theorem ensure_of_missing {bar : Bar} {report : ReportedWorkspace} {model : Model}
    (taken : bar.takesReport report = true) (snapshot : Snapshot)
    (missing : model.forReport? report = none) :
    model.ensure bar snapshot report =
      ((model.create bar report).gather bar snapshot (model.lastKey + 1) report.id).claim bar
        (model.lastKey + 1) := by
  refine (if_pos taken).trans ?_
  simp only [missing]
  rfl

/-- A workspace that is there takes over its report. -/
theorem outline_ensure_of_found {bar : Bar} {report : ReportedWorkspace} {model : Model}
    {workspace : Workspace} (taken : bar.takesReport report = true) (snapshot : Snapshot)
    (found : model.forReport? report = some workspace) :
    (model.ensure bar snapshot report).outline =
      (model.update workspace.key fun workspace => workspace.adopt report).outline := by
  rw [ensure_of_found taken snapshot found]
  dsimp only
  split
  · exact outline_claim ..
  · rw [outline_claim, outline_gather]

/-- A workspace that is not there is created. -/
theorem outline_ensure_of_missing {bar : Bar} {report : ReportedWorkspace} {model : Model}
    (taken : bar.takesReport report = true) (snapshot : Snapshot)
    (missing : model.forReport? report = none) :
    (model.ensure bar snapshot report).outline = (model.create bar report).outline := by
  rw [ensure_of_missing taken snapshot missing, outline_claim, outline_gather]

theorem withId?_of_forReport?_eq_none {model : Model} {report : ReportedWorkspace}
    (missing : model.forReport? report = none) : model.withId? report.id = none :=
  (Option.or_eq_none_iff.mp missing).1

theorem Identified.ensure {model : Model} (identified : model.Identified) (bar : Bar)
    (snapshot : Snapshot) (report : ReportedWorkspace) :
    (model.ensure bar snapshot report).Identified := by
  cases taken : bar.takesReport report with
  | false => rwa [ensure_of_refused taken]
  | true =>
    cases found : model.forReport? report with
    | some workspace =>
      refine Identified.of_outline ?_ (outline_ensure_of_found taken snapshot found)
      refine identified.update (fun _ _ => rfl) fun other id present reported => ?_
      obtain ⟨origin, before | ⟨-, -, missing⟩⟩ := identified.forReport? found
      · rw [origin] at present
        rw [← Option.some.inj present, before]
        exact Or.inl reported
      · rw [← Option.some.inj reported]
        exact Or.inr missing
    | none =>
      refine Identified.of_outline ?_ (outline_ensure_of_missing taken snapshot found)
      refine identified.insert rfl fun id reported => ?_
      rw [← Option.some.inj reported]
      exact withId?_of_forReport?_eq_none found

/-! ### Steps -/

/-- A workspace is replaced by one with its key that is not reported under another id. -/
theorem Identified.replace {model : Model} (identified : model.Identified) {key : Nat}
    {workspace replacement : Workspace} (present : model.workspaces.get? key = some workspace)
    (keyed : replacement.key = workspace.key) (same : replacement.id = workspace.id) :
    (model.update key fun _ => replacement).Identified := by
  refine identified.update (fun other found => ?_) fun other id found reported => ?_
  · rw [present] at found
    rw [keyed, Option.some.inj found]
  · rw [present] at found
    rw [← Option.some.inj found, ← same]
    exact Or.inl reported

theorem Identified.addDeclared {model : Model} (identified : model.Identified) (bar : Bar)
    (raw : String) : (model.addDeclared bar raw).Identified := by
  rw [Model.addDeclared]
  dsimp only
  split
  · exact identified.insert rfl fun id reported =>
        absurd reported.symm (Option.some_ne_none _)
  · exact identified

/-- Every step of the work on workspaces leaves them identities of their own. -/
theorem stepwise_identified (bar : Bar) (snapshot : Snapshot) :
    Stepwise bar snapshot fun before after => before.Identified → after.Identified where
  refl _ := id
  trans earlier later identified := later (earlier identified)
  replace present keyed same _ _ identified := identified.replace present keyed same
  claim model key identified := identified.of_outline (outline_claim bar key model)
  remove _ key identified := identified.remove snapshot key
  ensure _ report identified := identified.ensure bar snapshot report
  declare _ raw identified := identified.addDeclared bar raw

/-! ### Announced changes -/

theorem Identified.removeIfDestroyed {model : Model} (identified : model.Identified)
    (snapshot : Snapshot) (change : WorkspaceChange) :
    (model.removeIfDestroyed snapshot change).Identified := by
  cases change with
  | destroyed id raw =>
    rw [Model.removeIfDestroyed]
    split
    · exact identified.remove ..
    · exact identified
  | _ => exact identified

theorem Identified.removeDestroyed {model : Model} (identified : model.Identified)
    (snapshot : Snapshot) (changes : List WorkspaceChange) :
    (model.removeDestroyed snapshot changes).Identified :=
  List.foldlRecOn _ _ identified fun _ kept change _ => kept.removeIfDestroyed snapshot change

theorem Identified.applyChange {model : Model} (identified : model.Identified) (bar : Bar)
    (snapshot : Snapshot) (change : WorkspaceChange) :
    (model.applyChange bar snapshot change).Identified :=
  (stepwise_identified bar snapshot).applyChange model change identified

theorem Identified.applyChanges {model : Model} (identified : model.Identified) (bar : Bar)
    (snapshot : Snapshot) (changes : List WorkspaceChange) :
    (model.applyChanges bar snapshot changes).Identified :=
  (stepwise_identified bar snapshot).applyChanges changes model identified

/-! ### Agreement with the snapshot -/

theorem Identified.addAllDeclared {model : Model} (identified : model.Identified) (bar : Bar) :
    (model.addAllDeclared bar).Identified :=
  List.foldlRecOn bar.persistent (Model.addDeclared bar) identified
    fun _ kept raw _ => kept.addDeclared bar raw

theorem Identified.removeStale {model : Model} (identified : model.Identified) (bar : Bar)
    (snapshot : Snapshot) : (model.removeStale bar snapshot).Identified :=
  List.foldlRecOn _ _ identified fun _ kept key _ => kept.remove snapshot key

theorem Identified.align {model : Model} (identified : model.Identified) (bar : Bar)
    (snapshot : Snapshot) (excluded : List String) :
    (model.align bar snapshot excluded).Identified :=
  (stepwise_identified bar snapshot).align excluded model identified

/-! ### Flags -/

end Model

theorem Snapshot.id_of_reportOf? {snapshot : Snapshot} {workspace : Workspace}
    {report : ReportedWorkspace} (found : snapshot.reportOf? workspace = some report) :
    workspace.id = some report.id := by
  obtain ⟨id, reported, listed⟩ := Option.bind_eq_some_iff.mp found
  have same := List.find?_some listed
  rw [reported, of_decide_eq_true same]

namespace Workspace

theorem id_observe (bar : Bar) (snapshot : Snapshot) (workspace : Workspace) :
    (workspace.observe bar snapshot).id = workspace.id := by
  show (workspace.reported snapshot).id = workspace.id
  rw [reported]
  split
  · next report found => exact (Snapshot.id_of_reportOf? found).symm
  · rfl

theorem key_observe (bar : Bar) (snapshot : Snapshot) (workspace : Workspace) :
    (workspace.observe bar snapshot).key = workspace.key := by
  show (workspace.reported snapshot).key = workspace.key
  rw [reported]
  split <;> rfl

theorem outline_observe (bar : Bar) (snapshot : Snapshot) (workspace : Workspace) :
    (workspace.observe bar snapshot).outline = workspace.outline.observe bar snapshot := by
  have same : workspace.outline.reported snapshot = (workspace.reported snapshot).outline := by
    have report : snapshot.reportOf? workspace.outline = snapshot.reportOf? workspace := rfl
    rw [reported, reported, report]
    cases snapshot.reportOf? workspace <;> rfl
  rw [observe, observe, same]
  rfl

end Workspace

namespace Model

/-- To the outline, an observation is one of every workspace by itself. -/
theorem outline_observe (bar : Bar) (snapshot : Snapshot) (model : Model) :
    (model.observe bar snapshot).outline =
      { model with
        workspaces := model.workspaces.mapValues (Workspace.observe bar snapshot) }.outline :=
  outline_shareFocus _

theorem Identified.observe {model : Model} (identified : model.Identified) (bar : Bar)
    (snapshot : Snapshot) : (model.observe bar snapshot).Identified :=
  (identified.mapValues (Workspace.key_observe bar snapshot)
    (Workspace.id_observe bar snapshot)).of_outline (outline_observe bar snapshot model)

/-! ### Ticks and runs -/

theorem identified_cleared (model : Model) :
    { model with
      workspaces := SortedMap.empty
      owners := SortedMap.empty
      orphans := SortedMap.empty }.Identified where
  keyed found := absurd found.symm (Option.some_ne_none _)
  bounded found := absurd found.symm (Option.some_ne_none _)
  distinct found := absurd found.symm (Option.some_ne_none _)

theorem Identified.startOver (bar : Bar) (snapshot : Snapshot) (model : Model) :
    (model.startOver bar snapshot).Identified :=
  ((identified_cleared model).align bar snapshot []).addAllDeclared bar

/-- What a tick does with windows does not show on the workspaces that it has aligned. -/
theorem outline_catchUp (bar : Bar) (snapshot : Snapshot) (backlog : Backlog) (model : Model) :
    (Tracker.catchUp bar snapshot backlog model).outline =
      ((((model.removeDestroyed snapshot backlog.workspaces).applyChanges bar snapshot
        backlog.workspaces).align bar snapshot
          (backlog.workspaces.filterMap destroyedName?)).addAllDeclared bar).outline :=
  (outline_growOrphans ..).trans (outline_applyWindowChanges ..)

theorem Identified.catchUp {model : Model} (identified : model.Identified) (bar : Bar)
    (snapshot : Snapshot) (backlog : Backlog) :
    (Tracker.catchUp bar snapshot backlog model).Identified := by
  have declared := (stepwise_identified bar snapshot).beforeWindowChanges backlog.workspaces model
    identified
  exact declared.of_outline (outline_catchUp bar snapshot backlog model)

theorem Identified.nextModel {tracker : Tracker} (identified : tracker.model.Identified)
    (snapshot : Snapshot) : (tracker.nextModel snapshot).Identified := by
  rw [Tracker.nextModel]
  split
  · exact (identified.catchUp ..).observe ..
  · exact (Identified.startOver tracker.bar snapshot tracker.model).observe ..

/-- At the end of every run workspaces stand under their own keys and have ids of their own. -/
theorem identified_run [Pattern.Engine] (config : BarConfig) (inputs : List Tracker.Input) :
    (Tracker.run config inputs).model.Identified := by
  refine Tracker.run_induction (motive := fun tracker => tracker.model.Identified)
    identified_empty fun tracker kept input _ => ?_
  cases input with
  | event event => exact kept
  | snapshot snapshot => exact kept.nextModel snapshot

end Model

end Deskbar
