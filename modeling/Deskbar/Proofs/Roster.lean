/-
This file follows the workspaces through a tick. What it follows is the roster, which has under
every key the outline of the workspace there, and it says once what each part of a tick may do to a
roster: a report may be adopted or have a workspace created for it, an announced change may give a
workspace another name or output, a removal leaves a workspace unreported or takes it away, and a
declared workspace may be added. The parts of a tick are chains of such steps.

Everything that is proved about workspaces from here on is proved about these steps. How the model
finds a workspace, and what it does with windows, is read here and nowhere else.
-/

import Mathlib.Logic.Function.Basic
import Deskbar.Proofs.Delivery

namespace Deskbar

/-! ### Workspaces -/

namespace Workspace

/-- A workspace that the bar has given another raw name. -/
def renamedOn (bar : Bar) (raw : String) (workspace : Workspace) : Workspace :=
  let renamed := workspace.rename raw
  { renamed with flags := { renamed.flags with persistentConfig := bar.declares renamed.name } }

/-- A workspace that the bar has created for a report. -/
def createdOn (bar : Bar) (key : Nat) (report : ReportedWorkspace) : Workspace :=
  let workspace := ofReport key report
  { workspace with
    flags := { workspace.flags with persistentConfig := bar.declares workspace.name } }

/-- What a removal leaves of a workspace. -/
def left? (workspace : Workspace) : Option Workspace :=
  if workspace.flags.persistentConfig then some workspace.letGo else none

/-- Whether a raw name may mean a workspace. -/
def IsCalled (raw : String) (workspace : Workspace) : Prop :=
  workspace.name = shownName raw ∨ workspace.reference = workspaceReference raw

theorem left?_eq_some_iff {workspace left : Workspace} :
    workspace.left? = some left ↔
      workspace.flags.persistentConfig = true ∧ workspace.letGo = left := by
  unfold left?
  split
  · next kept => simp [kept]
  · next gone => simp [gone]

/-- What a removal leaves is not reported. -/
theorem id_of_left? {workspace left : Workspace} (same : workspace.left? = some left) :
    left.id = none := by
  obtain ⟨-, rfl⟩ := left?_eq_some_iff.mp same
  rfl

end Workspace

namespace Snapshot

/-- The report that a raw name means: the one with the name, or else the first one that windows
refer to by it. -/
def called? (snapshot : Snapshot) (raw : String) : Option ReportedWorkspace :=
  (snapshot.byRawName? raw).or (snapshot.workspaces.find? fun report =>
    workspaceReference report.name = workspaceReference raw)

/-- The report that a change may bring onto the bar. -/
def announced? (snapshot : Snapshot) : WorkspaceChange → Option ReportedWorkspace
  | .created (some id) _ => snapshot.byId? id
  | .created none raw => snapshot.byRawName? raw
  | .moved raw _ => snapshot.called? raw
  | .activated raw => snapshot.called? raw
  | _ => none

/-- The reports in the order of their ids, without those whose shown names are excluded. -/
def inOrder (snapshot : Snapshot) (excluded : List String) : List ReportedWorkspace :=
  (sortBy (compareOn ReportedWorkspace.id) snapshot.workspaces).filter fun report =>
    !excluded.contains (shownName report.name)

theorem mem_of_announced? {snapshot : Snapshot} {change : WorkspaceChange}
    {report : ReportedWorkspace} (announced : snapshot.announced? change = some report) :
    report ∈ snapshot.workspaces := by
  have called : ∀ raw, snapshot.called? raw = some report → report ∈ snapshot.workspaces := by
    intro raw found
    rcases Option.or_eq_some_iff.mp found with named | ⟨-, referred⟩
    · exact List.mem_of_find?_eq_some named
    · exact List.mem_of_find?_eq_some referred
  cases change with
  | created id raw =>
    cases id with
    | none => exact List.mem_of_find?_eq_some announced
    | some id => exact List.mem_of_find?_eq_some announced
  | destroyed id raw => cases announced
  | renamed id raw => cases announced
  | moved raw monitor => exact called raw announced
  | activated raw => exact called raw announced

/-- A creation announces the report with its id, or the one with its name. -/
theorem created_of_announced? {snapshot : Snapshot} {id : Option Int} {raw : String}
    {report : ReportedWorkspace} (announced : snapshot.announced? (.created id raw) = some report) :
    id = some report.id ∨ raw = report.name := by
  cases id with
  | none =>
    have found : snapshot.byRawName? raw = some report := announced
    have same := List.find?_some found
    exact Or.inr (of_decide_eq_true same).symm
  | some id =>
    have found : snapshot.byId? id = some report := announced
    have same := List.find?_some found
    exact Or.inl (congrArg some (of_decide_eq_true same).symm)

theorem mem_inOrder_iff {snapshot : Snapshot} {excluded : List String}
    {report : ReportedWorkspace} :
    report ∈ snapshot.inOrder excluded ↔
      report ∈ snapshot.workspaces ∧ shownName report.name ∉ excluded := by
  simp [inOrder, (sortBy_perm (compareOn ReportedWorkspace.id) snapshot.workspaces).mem_iff]

end Snapshot

/-- The changes of workspaces that the next tick carries out. There are none when it starts over. -/
def Tracker.carried (tracker : Tracker) : List WorkspaceChange :=
  if tracker.startsOver then [] else tracker.backlog.workspaces

theorem Tracker.carried_eq {tracker : Tracker} (carriesOn : tracker.startsOver = false) :
    tracker.carried = tracker.backlog.workspaces := by
  rw [carried, carriesOn]
  rfl

/-! ### Rosters -/

/-- The outlines of workspaces by key. -/
abbrev Roster : Type := Nat → Option Workspace

namespace Roster

/-- Whether something is true of every workspace. -/
def Every (property : Workspace → Prop) (roster : Roster) : Prop :=
  ∀ key workspace, roster key = some workspace → property workspace

/-- Whether no workspace has an id. -/
def Lacks (roster : Roster) (id : Int) : Prop :=
  roster.Every fun workspace => workspace.id ≠ some id

/-- Whether no id is on two workspaces. -/
def Distinct (roster : Roster) : Prop :=
  ∀ first second one other id, roster first = some one → roster second = some other →
    one.id = some id → other.id = some id → first = second

/-- A report that the bar takes in goes to the workspace with its id, or else to one with its name
that is not reported, or else to a new one. -/
inductive Ensured (bar : Bar) (report : ReportedWorkspace) (roster : Roster) : Roster → Prop
  | refused (refused : bar.takesReport report = false) : Ensured bar report roster roster
  | adopted {key : Nat} {workspace : Workspace} (taken : bar.takesReport report = true)
      (present : roster key = some workspace) (own : workspace.id = some report.id) :
      Ensured bar report roster (Function.update roster key (some (workspace.adopt report)))
  | attached {key : Nat} {workspace : Workspace} (taken : bar.takesReport report = true)
      (present : roster key = some workspace) (unreported : workspace.id = none)
      (named : workspace.name = shownName report.name) (missing : roster.Lacks report.id) :
      Ensured bar report roster (Function.update roster key (some (workspace.adopt report)))
  | created {key : Nat} (taken : bar.takesReport report = true) (absent : roster key = none)
      (missing : roster.Lacks report.id)
      (unnamed : roster.Every fun workspace =>
        workspace.id = none → workspace.name ≠ shownName report.name) :
      Ensured bar report roster
        (Function.update roster key (some (Workspace.createdOn bar key report)))

/-- An announced destruction removes the workspace with its id if there is one, and at most one
workspace. -/
inductive Cleared (change : WorkspaceChange) (roster : Roster) : Roster → Prop
  | idle (missing : ∀ id raw, change = .destroyed (some id) raw → roster.Lacks id) :
      Cleared change roster roster
  | left {key : Nat} {workspace : Workspace} (present : roster key = some workspace)
      (meant : ∀ id raw, change = .destroyed (some id) raw →
        workspace.id = some id ∨ roster.Lacks id) :
      Cleared change roster (Function.update roster key workspace.left?)

/-- Any other change brings a report onto the bar or gives a workspace another name or output, and
then removes it if the bar does not take it in. -/
inductive Changed (bar : Bar) (snapshot : Snapshot) : WorkspaceChange → Roster → Roster → Prop
  | idle {change : WorkspaceChange} {roster : Roster} : Changed bar snapshot change roster roster
  | ensured {change : WorkspaceChange} {roster next : Roster} {report : ReportedWorkspace}
      (announced : snapshot.announced? change = some report)
      (ensured : roster.Ensured bar report next) : Changed bar snapshot change roster next
  | renamed {roster : Roster} {id : Int} {raw : String} {key : Nat} {workspace : Workspace}
      (present : roster key = some workspace) (own : workspace.id = some id)
      (kept : Model.keeps bar (workspace.renamedOn bar raw) = true) :
      Changed bar snapshot (.renamed id raw) roster
        (Function.update roster key (some (workspace.renamedOn bar raw)))
  | renamedAway {roster : Roster} {id : Int} {raw : String} {key : Nat} {workspace : Workspace}
      (present : roster key = some workspace) (own : workspace.id = some id)
      (refused : Model.keeps bar (workspace.renamedOn bar raw) = false) :
      Changed bar snapshot (.renamed id raw) roster
        (Function.update roster key (workspace.renamedOn bar raw).left?)
  | moved {roster : Roster} {raw monitor : String} {key : Nat} {workspace : Workspace}
      (present : roster key = some workspace) (called : workspace.IsCalled raw)
      (kept : Model.keeps bar (workspace.withOutput monitor) = true) :
      Changed bar snapshot (.moved raw monitor) roster
        (Function.update roster key (some (workspace.withOutput monitor)))
  | movedAway {roster : Roster} {raw monitor : String} {key : Nat} {workspace : Workspace}
      (present : roster key = some workspace) (called : workspace.IsCalled raw)
      (refused : Model.keeps bar (workspace.withOutput monitor) = false) :
      Changed bar snapshot (.moved raw monitor) roster
        (Function.update roster key (workspace.withOutput monitor).left?)

/-- A declared workspace is added at most when no other one may be meant by its name. -/
inductive Added (bar : Bar) (raw : String) (roster : Roster) : Roster → Prop
  | idle : Added bar raw roster roster
  | added {key : Nat} (absent : roster key = none)
      (unnamed : roster.Every fun workspace => ¬workspace.IsCalled raw)
      (taken : bar.takes (shownName raw) (bar.config.output.getD "")
        (WorkspaceName.parse raw).special = true) :
      Added bar raw roster (Function.update roster key
        (some (Workspace.declared key raw (bar.config.output.getD ""))))

/-- What is left when the workspaces whose reports are gone have been removed. -/
def prune (bar : Bar) (snapshot : Snapshot) (roster : Roster) : Roster := fun key =>
  (roster key).bind fun workspace =>
    if Model.isStale bar snapshot workspace then workspace.left? else some workspace

/-- What is true of every workspace has been made out. -/
def observed (bar : Bar) (snapshot : Snapshot) (roster : Roster) : Roster := fun key =>
  (roster key).map (Workspace.observe bar snapshot)

/-- Stale workspaces go, then the reports come in the order of their ids, then the declared
workspaces, and at last the flags are made out. -/
inductive Settles (bar : Bar) (snapshot : Snapshot) (excluded : List String) (roster : Roster) :
    Roster → Prop
  | intro {aligned declared : Roster}
      (ensured : Chained (Ensured bar) (snapshot.inOrder excluded) (roster.prune bar snapshot)
        aligned)
      (added : Chained (Added bar) bar.persistent aligned declared) :
      Settles bar snapshot excluded roster (declared.observed bar snapshot)

/-- A tick starts over from no workspaces, or carries out the announced changes first. -/
inductive Ticks (tracker : Tracker) (snapshot : Snapshot) (roster : Roster) : Roster → Prop
  | fresh {after : Roster} (fresh : tracker.startsOver = true)
      (settles : Settles tracker.bar snapshot [] (fun _ => none) after) :
      Ticks tracker snapshot roster after
  | caughtUp {cleared changed after : Roster} (carriesOn : tracker.startsOver = false)
      (clearing : Chained Cleared tracker.backlog.workspaces roster cleared)
      (changing : Chained (Changed tracker.bar snapshot) tracker.backlog.workspaces cleared changed)
      (settles : changed.Settles tracker.bar snapshot
        (tracker.backlog.workspaces.filterMap Model.destroyedName?) after) :
      Ticks tracker snapshot roster after

end Roster

namespace Model

/-- The outlines of the workspaces of a model. -/
def roster (model : Model) : Roster := model.outline.workspaces.get?

theorem roster_apply (model : Model) (key : Nat) :
    model.roster key = (model.workspaces.get? key).map Workspace.outline := get?_outline model key

theorem roster_of_outline {first second : Model} (same : first.outline = second.outline) :
    first.roster = second.roster := by rw [roster, roster, same]

theorem roster_of_get? {model : Model} {key : Nat} {workspace : Workspace}
    (present : model.workspaces.get? key = some workspace) :
    model.roster key = some workspace.outline := by rw [roster_apply, present, Option.map_some]

theorem roster_eq_none_iff {model : Model} {key : Nat} :
    model.roster key = none ↔ model.workspaces.get? key = none := by
  rw [roster_apply, Option.map_eq_none_iff]

theorem exists_of_roster {model : Model} {key : Nat} {workspace : Workspace}
    (found : model.roster key = some workspace) :
    ∃ origin, model.workspaces.get? key = some origin ∧ origin.outline = workspace := by
  rw [roster_apply] at found
  exact Option.map_eq_some_iff.mp found

/-! ### Changes of one workspace -/

theorem roster_update {model : Model} {key : Nat} {workspace : Workspace}
    (present : model.workspaces.get? key = some workspace) (change : Workspace → Workspace) :
    (model.update key change).roster =
      Function.update model.roster key (some (change workspace).outline) := by
  funext other
  rw [Function.update_apply, roster_apply, roster_apply]
  split
  · next same => rw [same, get?_update_self present, Option.map_some]
  · next different => rw [update, SortedMap.get?_modify_of_ne _ _ different]

theorem roster_erase (model : Model) (key : Nat) :
    { model with workspaces := model.workspaces.erase key }.roster =
      Function.update model.roster key none := by
  funext other
  rw [Function.update_apply, roster_apply, roster_apply]
  split
  · next same => rw [same, SortedMap.get?_erase_self, Option.map_none]
  · next different => rw [SortedMap.get?_erase_of_ne _ different]

theorem roster_insert (model : Model) (key : Nat) (workspace : Workspace) :
    { model with workspaces := model.workspaces.insert key workspace, lastKey := key }.roster =
      Function.update model.roster key (some workspace.outline) := by
  funext other
  rw [Function.update_apply, roster_apply, roster_apply]
  split
  · next same => rw [same, SortedMap.get?_insert_self, Option.map_some]
  · next different => rw [SortedMap.get?_insert_of_ne _ _ different]

/-- Removal leaves of a workspace what its flag says, and every other one as it was. -/
theorem roster_remove (snapshot : Snapshot) (key : Nat) (model : Model) :
    (model.remove snapshot key).roster =
      Function.update model.roster key ((model.roster key).bind Workspace.left?) := by
  cases present : model.workspaces.get? key with
  | none =>
    rw [remove_of_absent snapshot present, roster_eq_none_iff.mpr present, Option.bind_none,
      ← roster_eq_none_iff.mpr present, Function.update_eq_self]
  | some workspace =>
    have left := outline_remove snapshot present
    rw [roster_of_get? present, Option.bind_some]
    split at left
    · next kept =>
      rw [roster_of_outline left, roster_update present]
      exact congrArg _ (if_pos kept).symm
    · next gone =>
      rw [roster_of_outline left, roster_erase]
      exact congrArg _ (if_neg gone).symm

/-! ### Lookups -/

theorem lacks_of_withId? {model : Model} {id : Int} (missing : model.withId? id = none) :
    model.roster.Lacks id := by
  intro key workspace found
  obtain ⟨origin, present, rfl⟩ := exists_of_roster found
  exact withId?_eq_none_iff.mp missing key origin present

theorem isCalled_of_named? {model : Model} {raw : String} {workspace : Workspace}
    (found : model.named? raw = some workspace) : workspace.outline.IsCalled raw := by
  rcases Option.or_eq_some_iff.mp found with shown | ⟨-, referred⟩
  · exact Or.inl (of_decide_eq_true (first?_eq_some shown).2)
  · exact Or.inr (of_decide_eq_true (first?_eq_some referred).2)

theorem not_isCalled_of_named? {model : Model} {raw : String} (missing : model.named? raw = none) :
    model.roster.Every fun workspace => ¬workspace.IsCalled raw := by
  obtain ⟨unshown, unreferred⟩ := Option.or_eq_none_iff.mp missing
  intro key workspace found called
  obtain ⟨origin, present, rfl⟩ := exists_of_roster found
  rcases called with shown | referred
  · exact of_decide_eq_false (first?_eq_none_iff.mp unshown key origin present) shown
  · exact of_decide_eq_false (first?_eq_none_iff.mp unreferred key origin present) referred

theorem Identified.distinct_roster {model : Model} (identified : model.Identified) :
    model.roster.Distinct := by
  intro first second one other id found otherFound reported otherReported
  obtain ⟨origin, present, rfl⟩ := exists_of_roster found
  obtain ⟨otherOrigin, otherPresent, rfl⟩ := exists_of_roster otherFound
  exact identified.distinct present otherPresent reported otherReported

/-! ### Steps -/

theorem ensured_ensure {model : Model} (identified : model.Identified) (bar : Bar)
    (snapshot : Snapshot) (report : ReportedWorkspace) :
    model.roster.Ensured bar report (model.ensure bar snapshot report).roster := by
  cases taken : bar.takesReport report with
  | false =>
    rw [ensure_of_refused taken]
    exact Roster.Ensured.refused taken
  | true =>
    cases found : model.forReport? report with
    | some workspace =>
      obtain ⟨present, own⟩ := identified.forReport? found
      rw [roster_of_outline (outline_ensure_of_found taken snapshot found),
        roster_update present, Workspace.outline_adopt]
      rcases own with own | ⟨unreported, named, missing⟩
      · exact Roster.Ensured.adopted taken (roster_of_get? present) own
      · exact Roster.Ensured.attached taken (roster_of_get? present) unreported named
          (lacks_of_withId? missing)
    | none =>
      obtain ⟨missing, unnamed⟩ := Option.or_eq_none_iff.mp found
      rw [roster_of_outline (outline_ensure_of_missing taken snapshot found), create,
        roster_insert]
      refine Roster.Ensured.created taken (roster_eq_none_iff.mpr identified.get?_next)
        (lacks_of_withId? missing) ?_
      intro key workspace present unreported named
      obtain ⟨origin, originPresent, rfl⟩ := exists_of_roster present
      have failed := first?_eq_none_iff.mp unnamed key origin originPresent
      simp only [Bool.and_eq_false_iff, decide_eq_false_iff_not] at failed
      rcases failed with reported | otherwise
      · exact absurd (Option.isNone_iff_eq_none.mpr unreported) (Bool.eq_false_iff.mp reported)
      · exact otherwise named

theorem cleared_removeIfDestroyed {model : Model} (identified : model.Identified)
    (snapshot : Snapshot) (change : WorkspaceChange) :
    Roster.Cleared change model.roster (model.removeIfDestroyed snapshot change).roster := by
  cases change with
  | destroyed id raw =>
    rw [removeIfDestroyed]
    split
    · next workspace found =>
      have there : model.workspaces.get? workspace.key = some workspace ∧
          ∀ other, id = some other → workspace.id = some other ∨ model.roster.Lacks other := by
        rcases Option.or_eq_some_iff.mp found with byId | ⟨missing, named⟩
        · obtain ⟨own, rfl, here⟩ := Option.bind_eq_some_iff.mp byId
          obtain ⟨present, reported⟩ := identified.withId? here
          exact ⟨present, fun other same => Or.inl (same ▸ reported)⟩
        · refine ⟨identified.named? named, fun other same => Or.inr ?_⟩
          rw [same, Option.bind_some] at missing
          exact lacks_of_withId? missing
      obtain ⟨present, meant⟩ := there
      rw [roster_remove, roster_of_get? present]
      refine Roster.Cleared.left (roster_of_get? present) fun other name same => ?_
      exact meant other (WorkspaceChange.destroyed.inj same).1
    · next missing =>
      refine Roster.Cleared.idle fun other name same => ?_
      rw [destroyed?, (WorkspaceChange.destroyed.inj same).1, Option.or_eq_none_iff] at missing
      exact lacks_of_withId? missing.1
  | _ => exact Roster.Cleared.idle fun _ _ same => by cases same

theorem changed_rename {model : Model} (bar : Bar) (snapshot : Snapshot) {id : Int} {key : Nat}
    {workspace : Workspace} (present : model.workspaces.get? key = some workspace)
    (own : workspace.id = some id) (raw : String) :
    Roster.Changed bar snapshot (.renamed id raw) model.roster
      (model.rename bar snapshot key raw).roster := by
  have there := roster_of_get? present
  simp only [rename, present]
  split
  · next kept =>
    rw [roster_of_outline (outline_claim ..), roster_update present]
    exact Roster.Changed.renamed there own kept
  · next refused =>
    rw [roster_remove, roster_update present, Function.update_self, Function.update_idem]
    exact Roster.Changed.renamedAway there own (Bool.eq_false_iff.mpr refused)

theorem changed_relocate {model : Model} (bar : Bar) (snapshot : Snapshot) {raw : String}
    {key : Nat} {workspace : Workspace} (present : model.workspaces.get? key = some workspace)
    (called : workspace.outline.IsCalled raw) (monitor : String) :
    Roster.Changed bar snapshot (.moved raw monitor) model.roster
      (model.relocate bar snapshot key monitor).roster := by
  have there := roster_of_get? present
  simp only [relocate, present]
  split
  · next kept =>
    rw [roster_update present]
    exact Roster.Changed.moved there called kept
  · next refused =>
    rw [roster_remove, roster_update present, Function.update_self, Function.update_idem]
    exact Roster.Changed.movedAway there called (Bool.eq_false_iff.mpr refused)

theorem changed_ensureNamed {model : Model} (identified : model.Identified) (bar : Bar)
    (snapshot : Snapshot) {change : WorkspaceChange} {raw : String}
    (announces : snapshot.announced? change = snapshot.called? raw) :
    Roster.Changed bar snapshot change model.roster
      (model.ensureNamed bar snapshot raw).roster := by
  rw [ensureNamed]
  split
  · next report found =>
    exact Roster.Changed.ensured (announces.trans found)
      (ensured_ensure identified bar snapshot report)
  · exact Roster.Changed.idle

theorem changed_applyChange {model : Model} (identified : model.Identified) (bar : Bar)
    (snapshot : Snapshot) (change : WorkspaceChange) :
    Roster.Changed bar snapshot change model.roster
      (model.applyChange bar snapshot change).roster := by
  cases change with
  | destroyed id raw => exact Roster.Changed.idle
  | created id raw =>
    rw [applyChange.eq_def]
    dsimp only
    split
    · next report found =>
      refine Roster.Changed.ensured ?_ (ensured_ensure identified bar snapshot report)
      cases id with
      | none => exact found
      | some id => exact found
    · exact Roster.Changed.idle
  | renamed id raw =>
    rw [applyChange]
    split
    · next workspace found =>
      obtain ⟨present, own⟩ := identified.withId? found
      exact changed_rename bar snapshot present own raw
    · exact Roster.Changed.idle
  | moved raw monitor =>
    rw [applyChange]
    split
    · next workspace found =>
      exact changed_relocate bar snapshot (identified.named? found) (isCalled_of_named? found)
        monitor
    · exact changed_ensureNamed identified bar snapshot rfl
  | activated raw =>
    rw [applyChange]
    split
    · exact Roster.Changed.idle
    · exact changed_ensureNamed identified bar snapshot rfl

theorem added_addDeclared {model : Model} (identified : model.Identified) (bar : Bar)
    (raw : String) : model.roster.Added bar raw (model.addDeclared bar raw).roster := by
  rw [addDeclared]
  dsimp only
  split
  · next there =>
    rw [Bool.and_eq_true, Option.isNone_iff_eq_none] at there
    rw [roster_insert]
    exact Roster.Added.added (roster_eq_none_iff.mpr identified.get?_next)
      (not_isCalled_of_named? there.1) there.2
  · exact Roster.Added.idle

/-! ### Parts of a tick -/

theorem roster_foldl_remove (snapshot : Snapshot) (keys : List Nat) (model : Model) (key : Nat) :
    (keys.foldl (fun model key => model.remove snapshot key) model).roster key =
      if key ∈ keys then (model.roster key).bind Workspace.left? else model.roster key := by
  induction keys generalizing model with
  | nil => rfl
  | cons first rest inductionHypothesis =>
    rw [List.foldl_cons, inductionHypothesis, roster_remove]
    by_cases here : key = first
    · subst here
      rw [Function.update_self, if_pos List.mem_cons_self]
      split
      · -- Removed again, a workspace that was let go of is let go of once more.
        cases model.roster key with
        | none => rfl
        | some workspace =>
          unfold Workspace.left?
          by_cases kept : workspace.flags.persistentConfig = true
          · simp [kept, Workspace.letGo]
          · simp [kept]
      · rfl
    · rw [Function.update_of_ne here]
      simp only [List.mem_cons, here, false_or]

/-- Exactly the stale workspaces are removed. -/
theorem roster_removeStale {model : Model} (identified : model.Identified) (bar : Bar)
    (snapshot : Snapshot) :
    (model.removeStale bar snapshot).roster = model.roster.prune bar snapshot := by
  funext key
  rw [removeStale, roster_foldl_remove, Roster.prune]
  cases present : model.workspaces.get? key with
  | none => simp [roster_eq_none_iff.mpr present]
  | some workspace =>
    have member : key ∈ (model.workspaces.values.filter (isStale bar snapshot)).map
        Workspace.key ↔ isStale bar snapshot workspace = true := by
      simp only [List.mem_map, List.mem_filter, SortedMap.mem_values_iff]
      constructor
      · rintro ⟨other, ⟨⟨otherKey, otherPresent⟩, stale⟩, same⟩
        rw [identified.keyed otherPresent] at same
        rw [same, present] at otherPresent
        rwa [Option.some.inj otherPresent]
      · exact fun stale => ⟨workspace, ⟨⟨key, present⟩, stale⟩, identified.keyed present⟩
    rw [roster_of_get? present, Option.bind_some, Option.bind_some, if_congr member rfl rfl]
    rfl

theorem roster_observe (bar : Bar) (snapshot : Snapshot) (model : Model) :
    (model.observe bar snapshot).roster = model.roster.observed bar snapshot := by
  funext key
  rw [Roster.observed, roster_apply, roster_apply, get?_observe, Option.map_map, Option.map_map]
  congr 1
  funext workspace
  exact Workspace.outline_observe bar snapshot workspace

/-- Alignment, the declared workspaces and the flags are the parts of settling. -/
theorem settles_observe {origin model : Model} (identified : origin.Identified) (bar : Bar)
    (snapshot : Snapshot) (excluded : List String)
    (outlined : model.outline =
      ((origin.align bar snapshot excluded).addAllDeclared bar).outline) :
    origin.roster.Settles bar snapshot excluded (model.observe bar snapshot).roster := by
  have removed := identified.removeStale bar snapshot
  have aligned := identified.align bar snapshot excluded
  have ensured : Chained (Roster.Ensured bar) (snapshot.inOrder excluded)
      (origin.removeStale bar snapshot).roster (origin.align bar snapshot excluded).roster :=
    chained_foldl roster Identified (fun next kept report =>
      ⟨kept.ensure bar snapshot report, ensured_ensure kept bar snapshot report⟩) _ removed
  have added : Chained (Roster.Added bar) bar.persistent
      (origin.align bar snapshot excluded).roster
      ((origin.align bar snapshot excluded).addAllDeclared bar).roster :=
    chained_foldl roster Identified (fun next kept raw =>
      ⟨kept.addDeclared bar raw, added_addDeclared kept bar raw⟩) _ aligned
  rw [roster_removeStale identified] at ensured
  rw [roster_observe, roster_of_outline outlined]
  exact Roster.Settles.intro ensured added

/-- What a tick does to a model is a tick of its roster. -/
theorem ticks_nextModel {tracker : Tracker} (identified : tracker.model.Identified)
    (snapshot : Snapshot) :
    tracker.model.roster.Ticks tracker snapshot (tracker.nextModel snapshot).roster := by
  cases startsOver : tracker.startsOver with
  | true =>
    rw [Tracker.nextModel_of_startsOver startsOver]
    exact Roster.Ticks.fresh startsOver
      (settles_observe (identified_cleared tracker.model) tracker.bar snapshot [] rfl)
  | false =>
    have cleared := identified.removeDestroyed snapshot tracker.backlog.workspaces
    have changed := cleared.applyChanges tracker.bar snapshot tracker.backlog.workspaces
    have clearing : Chained Roster.Cleared tracker.backlog.workspaces tracker.model.roster
        (tracker.model.removeDestroyed snapshot tracker.backlog.workspaces).roster :=
      chained_foldl roster Identified (fun next kept change =>
        ⟨kept.removeIfDestroyed snapshot change, cleared_removeIfDestroyed kept snapshot change⟩)
        _ identified
    have changing : Chained (Roster.Changed tracker.bar snapshot) tracker.backlog.workspaces
        (tracker.model.removeDestroyed snapshot tracker.backlog.workspaces).roster
        ((tracker.model.removeDestroyed snapshot tracker.backlog.workspaces).applyChanges
          tracker.bar snapshot tracker.backlog.workspaces).roster :=
      chained_foldl roster Identified (fun next kept change =>
        ⟨kept.applyChange tracker.bar snapshot change,
          changed_applyChange kept tracker.bar snapshot change⟩) _ cleared
    rw [Tracker.nextModel_of_not_startsOver startsOver]
    exact Roster.Ticks.caughtUp startsOver clearing changing (settles_observe changed tracker.bar
      snapshot _ (outline_catchUp tracker.bar snapshot tracker.backlog tracker.model))

end Model

namespace Roster

variable {roster next : Roster} {bar : Bar} {snapshot : Snapshot}

/-- After a change of one workspace there is what has become of it, and every other one. -/
theorem update_eq_some_iff {key other : Nat} {changed : Option Workspace} {found : Workspace} :
    Function.update roster key changed other = some found ↔
      (other = key ∧ changed = some found) ∨ (other ≠ key ∧ roster other = some found) := by
  by_cases here : other = key
  · subst here
    simp
  · simp [here]

/-- After the removal of the stale workspaces there is what it has left of them, and every other
one. -/
theorem exists_of_prune {key : Nat} {workspace : Workspace}
    (present : roster.prune bar snapshot key = some workspace) :
    ∃ origin, roster key = some origin ∧
      ((Model.isStale bar snapshot origin = true ∧ origin.left? = some workspace) ∨
        (Model.isStale bar snapshot origin = false ∧ origin = workspace)) := by
  obtain ⟨origin, originPresent, left⟩ := Option.bind_eq_some_iff.mp present
  refine ⟨origin, originPresent, ?_⟩
  split at left
  · next stale => exact Or.inl ⟨stale, left⟩
  · next fresh => exact Or.inr ⟨Bool.eq_false_iff.mpr fresh, Option.some.inj left⟩

theorem Every.update {property : Workspace → Prop} (every : roster.Every property) {key : Nat}
    {changed : Option Workspace} (holds : ∀ workspace, changed = some workspace →
      property workspace) : Every property (Function.update roster key changed) := by
  intro other workspace present
  rcases update_eq_some_iff.mp present with ⟨-, same⟩ | ⟨-, before⟩
  · exact holds workspace same
  · exact every other workspace before

/-- After a report a workspace has adopted it or is as it was. -/
theorem Ensured.origin {report : ReportedWorkspace} (ensured : roster.Ensured bar report next)
    {key : Nat} {workspace : Workspace} (present : next key = some workspace) :
    (bar.takesReport report = true ∧ workspace.adopt report = workspace) ∨
      roster key = some workspace := by
  cases ensured with
  | refused refused => exact Or.inr present
  | adopted taken _ _ =>
    rcases update_eq_some_iff.mp present with ⟨-, same⟩ | ⟨-, before⟩
    · exact Or.inl ⟨taken, Option.some.inj same ▸ rfl⟩
    · exact Or.inr before
  | attached taken _ _ _ _ =>
    rcases update_eq_some_iff.mp present with ⟨-, same⟩ | ⟨-, before⟩
    · exact Or.inl ⟨taken, Option.some.inj same ▸ rfl⟩
    · exact Or.inr before
  | created taken _ _ _ =>
    rcases update_eq_some_iff.mp present with ⟨-, same⟩ | ⟨-, before⟩
    · exact Or.inl ⟨taken, Option.some.inj same ▸ rfl⟩
    · exact Or.inr before

theorem Every.ensured {property : Workspace → Prop} {report : ReportedWorkspace}
    (every : roster.Every property) (ensured : roster.Ensured bar report next)
    (adopted : ∀ workspace : Workspace, bar.takesReport report = true →
      workspace.adopt report = workspace → property workspace) : next.Every property := by
  intro key workspace present
  rcases ensured.origin present with ⟨taken, adopts⟩ | before
  · exact adopted workspace taken adopts
  · exact every key workspace before

/-! ### Ids -/

/-- Whether every id in one roster was there under the same key in another one. -/
def BringsNoId (before after : Roster) : Prop :=
  ∀ key workspace id, after key = some workspace → workspace.id = some id →
    ∃ origin, before key = some origin ∧ origin.id = some id

namespace BringsNoId

theorem lacks {id : Int} (brings : roster.BringsNoId next) (missing : roster.Lacks id) :
    next.Lacks id := by
  intro key workspace present reported
  obtain ⟨origin, originPresent, own⟩ := brings key workspace id present reported
  exact missing key origin originPresent own

theorem distinct (brings : roster.BringsNoId next) (distinct : roster.Distinct) :
    next.Distinct := by
  intro first second one other id found otherFound reported otherReported
  obtain ⟨_, before, own⟩ := brings first one id found reported
  obtain ⟨_, otherBefore, otherOwn⟩ := brings second other id otherFound otherReported
  exact distinct first second _ _ id before otherBefore own otherOwn

theorem refl (roster : Roster) : roster.BringsNoId roster :=
  fun _ workspace _ present reported => ⟨workspace, present, reported⟩

theorem trans {last : Roster} (brings : roster.BringsNoId next) (later : next.BringsNoId last) :
    roster.BringsNoId last := by
  intro key workspace id present reported
  obtain ⟨middle, middlePresent, own⟩ := later key workspace id present reported
  exact brings key middle id middlePresent own

/-- A workspace may change as it likes if it gets no id. -/
theorem update {key : Nat} {workspace : Workspace} (present : roster key = some workspace)
    {changed : Option Workspace} (own : ∀ after id, changed = some after → after.id = some id →
      workspace.id = some id) : roster.BringsNoId (Function.update roster key changed) := by
  intro other after id found reported
  rcases update_eq_some_iff.mp found with ⟨rfl, same⟩ | ⟨-, before⟩
  · exact ⟨workspace, present, own after id same reported⟩
  · exact ⟨after, before, reported⟩

theorem left {key : Nat} {workspace changed : Workspace} (present : roster key = some workspace) :
    roster.BringsNoId (Function.update roster key changed.left?) := by
  refine update present fun after id left reported => ?_
  cases (Workspace.id_of_left? left).symm.trans reported

end BringsNoId

theorem Cleared.bringsNoId {change : WorkspaceChange} (cleared : Cleared change roster next) :
    roster.BringsNoId next := by
  cases cleared with
  | idle missing => exact BringsNoId.refl roster
  | left present meant => exact BringsNoId.left present

/-- A change that brings no report onto the bar brings no id. -/
theorem Changed.bringsNoId {change : WorkspaceChange}
    (changed : Changed bar snapshot change roster next) :
    roster.BringsNoId next ∨
      ∃ report, snapshot.announced? change = some report ∧ roster.Ensured bar report next := by
  cases changed with
  | idle => exact Or.inl (BringsNoId.refl roster)
  | ensured announced ensured => exact Or.inr ⟨_, announced, ensured⟩
  | renamed present own kept =>
    refine Or.inl (BringsNoId.update present fun after id same reported => ?_)
    rwa [← Option.some.inj same] at reported
  | renamedAway present own refused => exact Or.inl (BringsNoId.left present)
  | moved present called kept =>
    refine Or.inl (BringsNoId.update present fun after id same reported => ?_)
    rwa [← Option.some.inj same] at reported
  | movedAway present called refused => exact Or.inl (BringsNoId.left present)

theorem bringsNoId_prune (bar : Bar) (snapshot : Snapshot) (roster : Roster) :
    roster.BringsNoId (roster.prune bar snapshot) := by
  intro key workspace id present reported
  obtain ⟨origin, originPresent, ⟨-, left⟩ | ⟨-, rfl⟩⟩ := exists_of_prune present
  · cases (Workspace.id_of_left? left).symm.trans reported
  · exact ⟨origin, originPresent, reported⟩

theorem Added.bringsNoId {raw : String} (added : Added bar raw roster next) :
    roster.BringsNoId next := by
  cases added with
  | idle => exact BringsNoId.refl roster
  | added absent unnamed taken =>
    intro key workspace id present reported
    rcases update_eq_some_iff.mp present with ⟨-, same⟩ | ⟨-, before⟩
    · cases Option.some.inj same ▸ reported
    · exact ⟨workspace, before, reported⟩

theorem bringsNoId_observed (bar : Bar) (snapshot : Snapshot) (roster : Roster) :
    roster.BringsNoId (roster.observed bar snapshot) := by
  intro key workspace id present reported
  obtain ⟨origin, originPresent, rfl⟩ := Option.map_eq_some_iff.mp present
  exact ⟨origin, originPresent, Workspace.id_observe bar snapshot origin ▸ reported⟩

theorem Lacks.ensured {id : Int} {report : ReportedWorkspace} (missing : roster.Lacks id)
    (ensured : roster.Ensured bar report next) (different : report.id ≠ id) : next.Lacks id := by
  refine Every.ensured missing ensured fun workspace _ adopted reported => different ?_
  exact Option.some.inj ((Workspace.id_of_adopted adopted).symm.trans reported)

/-- A workspace may get an id that no other one has. -/
theorem Distinct.update {key : Nat} {workspace : Workspace} {id : Int} (distinct : roster.Distinct)
    (own : workspace.id = some id) (missing : roster.Lacks id) :
    Distinct (Function.update roster key (some workspace)) := by
  intro first second one other common found otherFound reported otherReported
  rcases update_eq_some_iff.mp found with ⟨here, same⟩ | ⟨-, before⟩ <;>
    rcases update_eq_some_iff.mp otherFound with ⟨there, otherSame⟩ | ⟨-, otherBefore⟩
  · rw [here, there]
  · rw [← Option.some.inj same, own] at reported
    exact absurd (otherReported.trans reported.symm) (missing second other otherBefore)
  · rw [← Option.some.inj otherSame, own] at otherReported
    exact absurd (reported.trans otherReported.symm) (missing first one before)
  · exact distinct first second one other common before otherBefore reported otherReported

/-- When the workspace with an id has lost it no workspace has it. -/
theorem Distinct.lacks_update {key : Nat} {workspace : Workspace} {changed : Option Workspace}
    {id : Int} (distinct : roster.Distinct) (present : roster key = some workspace)
    (own : workspace.id = some id) (gone : ∀ after, changed = some after → after.id ≠ some id) :
    Lacks (Function.update roster key changed) id := by
  intro other after found reported
  rcases update_eq_some_iff.mp found with ⟨-, same⟩ | ⟨different, before⟩
  · exact gone after same reported
  · exact different (distinct other key after workspace id before present reported own)

theorem Distinct.ensured {report : ReportedWorkspace} (distinct : roster.Distinct)
    (ensured : roster.Ensured bar report next) : next.Distinct := by
  cases ensured with
  | refused refused => exact distinct
  | adopted taken present own =>
    refine (BringsNoId.update present fun after id same reported => ?_).distinct distinct
    rwa [← Option.some.inj same, Workspace.adopt, ← own] at reported
  | attached taken present unreported named missing => exact distinct.update rfl missing
  | created taken absent missing unnamed => exact distinct.update rfl missing

theorem Distinct.changed {change : WorkspaceChange} (distinct : roster.Distinct)
    (changed : Changed bar snapshot change roster next) : next.Distinct := by
  rcases changed.bringsNoId with brings | ⟨report, -, ensured⟩
  · exact brings.distinct distinct
  · exact distinct.ensured ensured

/-! ### Properties of every workspace -/

/-- Everything that a tick with certain changes does to a workspace keeps a property. -/
structure Lasting (bar : Bar) (snapshot : Snapshot) (changes : List WorkspaceChange)
    (property : Workspace → Prop) : Prop where
  adopted : ∀ report ∈ snapshot.workspaces, bar.takesReport report = true →
    ∀ workspace : Workspace, workspace.adopt report = workspace → property workspace
  left : ∀ workspace left, property workspace → workspace.left? = some left → property left
  renamed : ∀ id raw, .renamed id raw ∈ changes → ∀ workspace, property workspace →
    workspace.id = some id → Model.keeps bar (workspace.renamedOn bar raw) = true →
    property (workspace.renamedOn bar raw)
  renamedAway : ∀ id raw, .renamed id raw ∈ changes → ∀ workspace left, property workspace →
    workspace.id = some id → Model.keeps bar (workspace.renamedOn bar raw) = false →
    (workspace.renamedOn bar raw).left? = some left → property left
  moved : ∀ raw monitor, .moved raw monitor ∈ changes → ∀ workspace, property workspace →
    workspace.IsCalled raw → Model.keeps bar (workspace.withOutput monitor) = true →
    property (workspace.withOutput monitor)
  movedAway : ∀ raw monitor, .moved raw monitor ∈ changes → ∀ workspace left,
    property workspace → workspace.IsCalled raw →
    Model.keeps bar (workspace.withOutput monitor) = false →
    (workspace.withOutput monitor).left? = some left → property left
  added : ∀ raw ∈ bar.persistent, bar.takes (shownName raw) (bar.config.output.getD "")
    (WorkspaceName.parse raw).special = true → ∀ key,
    property (Workspace.declared key raw (bar.config.output.getD ""))

namespace Lasting

variable {changes : List WorkspaceChange} {property : Workspace → Prop}

theorem every_cleared (lasting : Lasting bar snapshot changes property) {change : WorkspaceChange}
    (cleared : Cleared change roster next) (every : roster.Every property) :
    next.Every property := by
  cases cleared with
  | idle missing => exact every
  | left present meant =>
    exact every.update fun left same => lasting.left _ left (every _ _ present) same

theorem every_ensured (lasting : Lasting bar snapshot changes property) {report : ReportedWorkspace}
    (member : report ∈ snapshot.workspaces) (ensured : roster.Ensured bar report next)
    (every : roster.Every property) : next.Every property :=
  every.ensured ensured fun workspace taken adopted =>
    lasting.adopted report member taken workspace adopted

theorem every_changed (lasting : Lasting bar snapshot changes property) {change : WorkspaceChange}
    (member : change ∈ changes) (changed : Changed bar snapshot change roster next)
    (every : roster.Every property) : next.Every property := by
  cases changed with
  | idle => exact every
  | ensured announced ensured =>
    exact lasting.every_ensured (Snapshot.mem_of_announced? announced) ensured every
  | renamed present own kept =>
    refine every.update fun after same => Option.some.inj same ▸ ?_
    exact lasting.renamed _ _ member _ (every _ _ present) own kept
  | renamedAway present own refused =>
    exact every.update fun left same =>
      lasting.renamedAway _ _ member _ left (every _ _ present) own refused same
  | moved present called kept =>
    refine every.update fun after same => Option.some.inj same ▸ ?_
    exact lasting.moved _ _ member _ (every _ _ present) called kept
  | movedAway present called refused =>
    exact every.update fun left same =>
      lasting.movedAway _ _ member _ left (every _ _ present) called refused same

theorem every_prune (lasting : Lasting bar snapshot changes property)
    (every : roster.Every property) : (roster.prune bar snapshot).Every property := by
  intro key workspace present
  obtain ⟨origin, originPresent, ⟨-, left⟩ | ⟨-, rfl⟩⟩ := exists_of_prune present
  · exact lasting.left origin workspace (every key origin originPresent) left
  · exact every key origin originPresent

theorem every_added (lasting : Lasting bar snapshot changes property) {raw : String}
    (member : raw ∈ bar.persistent) (added : Added bar raw roster next)
    (every : roster.Every property) : next.Every property := by
  cases added with
  | idle => exact every
  | added absent unnamed taken =>
    exact every.update fun after same =>
      Option.some.inj same ▸ lasting.added raw member taken _

theorem every_settles (lasting : Lasting bar snapshot changes property) {excluded : List String}
    {after : Roster} (settles : roster.Settles bar snapshot excluded after)
    (every : roster.Every property) :
    ∃ declared : Roster, declared.Every property ∧ after = declared.observed bar snapshot := by
  obtain ⟨ensured, added⟩ := settles
  have aligned := ensured.keeps (fun report member _ _ =>
    lasting.every_ensured (Snapshot.mem_inOrder_iff.mp member).1) (lasting.every_prune every)
  exact ⟨_, added.keeps (fun raw member _ _ => lasting.every_added member) aligned, rfl⟩

/-- What is kept by everything that a tick does is true of every workspace before the flags are made
out. -/
theorem every_ticks {tracker : Tracker} {after : Roster}
    (ticks : roster.Ticks tracker snapshot after)
    (lasting : Lasting tracker.bar snapshot tracker.carried property)
    (every : roster.Every property) :
    ∃ declared : Roster, declared.Every property ∧
      after = declared.observed tracker.bar snapshot := by
  cases ticks with
  | fresh _ settles => exact lasting.every_settles settles fun _ _ present => by cases present
  | caughtUp carriesOn clearing changing settles =>
    rw [Tracker.carried_eq carriesOn] at lasting
    have cleared := clearing.keeps (fun _ _ _ _ => lasting.every_cleared) every
    have changed := changing.keeps (fun change member _ _ => lasting.every_changed member) cleared
    exact lasting.every_settles settles changed

end Lasting

/-! ### What a tick leaves -/

end Roster

/-- Reports under one id have one name and one output. -/
def Snapshot.PlacesIds (snapshot : Snapshot) : Prop :=
  ∀ first ∈ snapshot.workspaces, ∀ second ∈ snapshot.workspaces, first.id = second.id →
    first.name = second.name ∧ first.monitor = second.monitor

namespace Snapshot

variable {snapshot : Snapshot}

theorem placesIds_of_distinct (distinct : (snapshot.workspaces.map ReportedWorkspace.id).Nodup) :
    snapshot.PlacesIds := by
  intro first firstMember second secondMember same
  rw [List.inj_on_of_nodup_map distinct firstMember secondMember same]
  exact ⟨rfl, rfl⟩

/-- Where there is a report with an id the first one is found. -/
theorem exists_byId? {report : ReportedWorkspace} (member : report ∈ snapshot.workspaces) :
    ∃ first ∈ snapshot.workspaces, snapshot.byId? report.id = some first ∧
      first.id = report.id := by
  cases found : snapshot.byId? report.id with
  | none => exact absurd (List.find?_eq_none.mp found report member) (by simp)
  | some first =>
    have same := List.find?_some found
    exact ⟨first, List.mem_of_find?_eq_some found, rfl, of_decide_eq_true same⟩

/-- The bar takes in all the reports under an id or none of them. -/
theorem PlacesIds.takesReport (places : snapshot.PlacesIds) (bar : Bar)
    {first second : ReportedWorkspace} (firstMember : first ∈ snapshot.workspaces)
    (secondMember : second ∈ snapshot.workspaces) (same : first.id = second.id) :
    bar.takesReport first = bar.takesReport second := by
  obtain ⟨name, monitor⟩ := places first firstMember second secondMember same
  unfold Bar.takesReport
  rw [name, monitor]

/-- A report that the bar takes in keeps its workspace from going. -/
theorem PlacesIds.isStale (places : snapshot.PlacesIds) {bar : Bar} {report : ReportedWorkspace}
    (member : report ∈ snapshot.workspaces) (taken : bar.takesReport report = true)
    {workspace : Workspace} (own : workspace.id = some report.id) :
    Model.isStale bar snapshot workspace = false := by
  obtain ⟨first, firstMember, found, same⟩ := exists_byId? member
  have firstTaken := places.takesReport bar firstMember member same
  unfold Model.isStale
  rw [own]
  dsimp only
  rw [found]
  exact (Bool.not_eq_false' ..).mpr (firstTaken.trans taken)

end Snapshot

namespace Roster

variable {roster after : Roster} {bar : Bar} {snapshot : Snapshot} {excluded : List String}

/-- Every workspace that is reported after a tick has the id of a report that the bar takes in. -/
theorem Settles.reported (settles : roster.Settles bar snapshot excluded after) :
    after.Every fun workspace => ∀ id, workspace.id = some id →
      ∃ report ∈ snapshot.workspaces, bar.takesReport report = true ∧ report.id = id := by
  obtain ⟨ensured, added⟩ := settles
  have pruned : (roster.prune bar snapshot).Every fun workspace => ∀ id, workspace.id = some id →
      ∃ report ∈ snapshot.workspaces, bar.takesReport report = true ∧ report.id = id := by
    intro key workspace present id reported
    obtain ⟨origin, originPresent, ⟨-, left⟩ | ⟨fresh, rfl⟩⟩ := exists_of_prune present
    · cases (Workspace.id_of_left? left).symm.trans reported
    · exact Model.exists_report_of_not_isStale fresh reported
  have aligned := ensured.keeps (fun report member before next step every =>
    Every.ensured every step fun workspace taken adopted id reported =>
      ⟨report, (Snapshot.mem_inOrder_iff.mp member).1, taken,
        Option.some.inj ((Workspace.id_of_adopted adopted).symm.trans reported)⟩) pruned
  have brings := added.keeps (motive := fun next => BringsNoId _ next)
    (fun _ _ _ _ step brings => brings.trans step.bringsNoId) (BringsNoId.refl _)
  intro key workspace present id reported
  obtain ⟨origin, originPresent, own⟩ :=
    brings.trans (bringsNoId_observed bar snapshot _) key workspace id present reported
  exact aligned key origin originPresent id own

/-- Every workspace that is reported after a tick has adopted a report that the bar takes in, if
reports under one id do not differ in what the bar goes by. -/
theorem Settles.faithful (settles : roster.Settles bar snapshot excluded after)
    (places : snapshot.PlacesIds) :
    after.Every fun workspace => ∀ id, workspace.id = some id →
      ∃ report ∈ snapshot.workspaces, bar.takesReport report = true ∧
        workspace.adopt report = workspace := by
  intro key workspace present id reported
  obtain ⟨other, otherMember, taken, rfl⟩ := settles.reported key workspace present id reported
  obtain ⟨ensured, added⟩ := settles
  obtain ⟨origin, originPresent, rfl⟩ := Option.map_eq_some_iff.mp present
  rw [Workspace.id_observe] at reported
  obtain ⟨report, member, found, same⟩ := Snapshot.exists_byId? otherMember
  have listed : snapshot.reportOf? origin = some report := by
    rw [Snapshot.reportOf?, reported, Option.bind_some, found]
  have reportTaken := places.takesReport bar member otherMember same
  exact ⟨report, member, reportTaken.trans taken, Workspace.adopt_observe bar listed⟩

/-- After a tick the configuration keeps the workspaces that it declares. -/
theorem Settles.flagged (settles : roster.Settles bar snapshot excluded after) :
    after.Every fun workspace =>
      workspace.flags.persistentConfig = bar.declares workspace.name := by
  obtain ⟨ensured, added⟩ := settles
  intro key workspace present
  obtain ⟨origin, -, rfl⟩ := Option.map_eq_some_iff.mp present
  rfl

/-- A tick settles the workspaces, whatever it does before. -/
theorem Ticks.exists_settles {tracker : Tracker} (ticks : roster.Ticks tracker snapshot after) :
    ∃ origin excluded, Settles tracker.bar snapshot excluded origin after := by
  cases ticks with
  | fresh _ settles => exact ⟨_, _, settles⟩
  | caughtUp _ _ _ settles => exact ⟨_, _, settles⟩

theorem Ticks.flagged {tracker : Tracker} (ticks : roster.Ticks tracker snapshot after) :
    after.Every fun workspace =>
      workspace.flags.persistentConfig = tracker.bar.declares workspace.name := by
  obtain ⟨origin, excluded, settles⟩ := ticks.exists_settles
  exact settles.flagged

theorem Ticks.reported {tracker : Tracker} (ticks : roster.Ticks tracker snapshot after) :
    after.Every fun workspace => ∀ id, workspace.id = some id →
      ∃ report ∈ snapshot.workspaces, tracker.bar.takesReport report = true ∧ report.id = id := by
  obtain ⟨origin, excluded, settles⟩ := ticks.exists_settles
  exact settles.reported

theorem Ticks.faithful {tracker : Tracker} (ticks : roster.Ticks tracker snapshot after)
    (places : snapshot.PlacesIds) :
    after.Every fun workspace => ∀ id, workspace.id = some id →
      ∃ report ∈ snapshot.workspaces, tracker.bar.takesReport report = true ∧
        workspace.adopt report = workspace := by
  obtain ⟨origin, excluded, settles⟩ := ticks.exists_settles
  exact settles.faithful places

/-- After a tick every workspace has adopted a report that the bar takes in, or has the properties
that the tick keeps, but for what an observation changes. -/
theorem Ticks.every {tracker : Tracker} {property final : Workspace → Prop}
    (ticks : roster.Ticks tracker snapshot after) (places : snapshot.PlacesIds)
    (lasting : Lasting tracker.bar snapshot tracker.carried property)
    (every : roster.Every property)
    (reported : ∀ (workspace : Workspace) (report : ReportedWorkspace),
      tracker.bar.takesReport report = true → workspace.adopt report = workspace →
      final workspace)
    (unreported : ∀ key origin, after key = some (origin.observe tracker.bar snapshot) →
      origin.id = none → property origin → final (origin.observe tracker.bar snapshot)) :
    after.Every final := by
  intro key workspace present
  cases own : workspace.id with
  | some id =>
    obtain ⟨report, -, taken, adopted⟩ := ticks.faithful places key workspace present id own
    exact reported workspace report taken adopted
  | none =>
    obtain ⟨declared, declaredEvery, rfl⟩ := lasting.every_ticks ticks every
    obtain ⟨origin, originPresent, rfl⟩ := Option.map_eq_some_iff.mp present
    rw [Workspace.id_observe] at own
    exact unreported key origin present own (declaredEvery key origin originPresent)

end Roster

end Deskbar
