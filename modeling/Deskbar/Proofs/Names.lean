/-
This file says which workspace a name means, and when it still means the same one. A name means the
oldest workspace that shows it, or else the oldest one that windows refer to by it, and keys tell
which one is older. A lookup therefore sees nothing of a model but what its workspaces are called.

Reports give workspaces their names. Once every report has been adopted, what a workspace is called
does not change for the rest of a tick: windows have no part in it, and an observation reads the
report that was adopted again.
-/

import Mathlib.Order.Bounds.Basic
import Deskbar.Proofs.Agreement

namespace Deskbar

namespace Model

/-! ### Lookups by name -/

/-- The name that the workspace with a key shows. -/
def nameAt? (model : Model) (key : Nat) : Option String :=
  (model.workspaces.get? key).map Workspace.name

/-- How windows refer to the workspace with a key. -/
def referenceAt? (model : Model) (key : Nat) : Option String :=
  (model.workspaces.get? key).map Workspace.reference

/-- Whether the workspace with a key is the one that a raw name means: the oldest one that shows
the name, or the oldest one that windows refer to by it when none shows it. -/
def Answers (model : Model) (raw : String) (key : Nat) : Prop :=
  IsLeast {other | model.nameAt? other = some (shownName raw)} key ∨
    (∀ other, model.nameAt? other ≠ some (shownName raw)) ∧
      IsLeast {other | model.referenceAt? other = some (workspaceReference raw)} key

/-- A name means no more than one workspace. -/
theorem Answers.unique {model : Model} {raw : String} {key other : Nat}
    (answers : model.Answers raw key) (answersToo : model.Answers raw other) : key = other := by
  rcases answers with shown | ⟨none, referred⟩
  · rcases answersToo with shownToo | ⟨noneToo, -⟩
    · exact shown.unique shownToo
    · exact absurd shown.1 (noneToo key)
  · rcases answersToo with shownToo | ⟨-, referredToo⟩
    · exact absurd shownToo.1 (none other)
    · exact referred.unique referredToo

/-- A workspace that is the only one to show a name or to be referred to by it is meant by it. -/
theorem answers_of_alone {model : Model} {raw : String} {key : Nat}
    (referred : model.referenceAt? key = some (workspaceReference raw))
    (alone : ∀ other, model.nameAt? other = some (shownName raw) ∨
      model.referenceAt? other = some (workspaceReference raw) → other = key) :
    model.Answers raw key := by
  by_cases shown : model.nameAt? key = some (shownName raw)
  · exact Or.inl ⟨shown, fun other found => (alone other (Or.inl found)).ge⟩
  · refine Or.inr ⟨fun other found => shown ?_, referred, fun other found => ?_⟩
    · rwa [← alone other (Or.inl found)]
    · exact (alone other (Or.inr found)).ge

/-- A lookup finds the oldest workspace of which something is true. -/
theorem exists_oldest_of_first? {model : Model} {test : Workspace → Bool} {workspace : Workspace}
    (found : model.first? test = some workspace) :
    ∃ key, model.workspaces.get? key = some workspace ∧ test workspace = true ∧
      ∀ other later, model.workspaces.get? other = some later → test later = true →
        key ≤ other := by
  obtain ⟨passed, earlier, rest, split, failed⟩ := List.find?_eq_some_iff_append.mp found
  obtain ⟨before, after, entries, rfl, restEntries⟩ := List.map_eq_append_iff.mp split
  obtain ⟨entry, later, rfl, rfl, -⟩ := List.map_eq_cons_iff.mp restEntries
  have ascending := model.workspaces.ascending
  rw [entries] at ascending
  have below := (List.pairwise_cons.mp (List.pairwise_append.mp ascending).2.1).1
  refine ⟨entry.1, SortedMap.get?_eq_some_iff.mpr ?_, passed, fun other found present true => ?_⟩
  · rw [entries]
    exact List.mem_append_right _ List.mem_cons_self
  · have member := SortedMap.get?_eq_some_iff.mp present
    rw [entries, List.mem_append, List.mem_cons] at member
    rcases member with old | same | new
    · have fails := failed found (List.mem_map_of_mem old)
      rw [true] at fails
      cases fails
    · rw [← same]
    · exact (Nat.compare_eq_lt.mp (below _ new)).le

namespace Identified

variable {model : Model} {raw : String}

/-- Of the workspaces that are called something in one of the two ways, a lookup finds the oldest
one. -/
theorem isLeast_of_first? (identified : model.Identified) {called : Workspace → String}
    {text : String} {workspace : Workspace}
    (found : (model.first? fun workspace => called workspace = text) = some workspace) :
    IsLeast {other | (model.workspaces.get? other).map called = some text} workspace.key := by
  obtain ⟨key, present, passed, least⟩ := exists_oldest_of_first? found
  rw [identified.keyed present]
  refine ⟨?_, fun other otherFound => ?_⟩
  · show (model.workspaces.get? key).map called = some text
    rw [present, Option.map_some, of_decide_eq_true passed]
  · obtain ⟨later, otherPresent, same⟩ := Option.map_eq_some_iff.mp otherFound
    exact least other later otherPresent (decide_eq_true same)

theorem not_called_of_first? {called : Workspace → String} {text : String}
    (missing : (model.first? fun workspace => called workspace = text) = none) (key : Nat) :
    (model.workspaces.get? key).map called ≠ some text := by
  intro found
  obtain ⟨workspace, present, same⟩ := Option.map_eq_some_iff.mp found
  exact of_decide_eq_false (first?_eq_none_iff.mp missing key workspace present) same

/-- The workspace that a lookup by a name finds is the one that the name means. -/
theorem answers_of_named? (identified : model.Identified) {workspace : Workspace}
    (found : model.named? raw = some workspace) : model.Answers raw workspace.key := by
  rcases Option.or_eq_some_iff.mp found with shown | ⟨missing, referred⟩
  · exact Or.inl (identified.isLeast_of_first? shown)
  · exact Or.inr ⟨not_called_of_first? missing, identified.isLeast_of_first? referred⟩

/-- A name that a lookup does not find means no workspace. -/
theorem not_answers_of_named? (missing : model.named? raw = none) (key : Nat) :
    ¬model.Answers raw key := by
  obtain ⟨unshown, unreferred⟩ := Option.or_eq_none_iff.mp missing
  rintro (shown | ⟨-, referred⟩)
  · exact not_called_of_first? unshown key shown.1
  · exact not_called_of_first? unreferred key referred.1

/-- A lookup by a name finds the workspace that the name means. -/
theorem named?_iff (identified : model.Identified) {key : Nat} :
    (model.named? raw).map Workspace.key = some key ↔ model.Answers raw key := by
  cases found : model.named? raw with
  | none => exact iff_of_false (fun same => by cases same) (not_answers_of_named? found key)
  | some workspace =>
    have answers := identified.answers_of_named? found
    refine ⟨fun same => Option.some.inj same ▸ answers, fun answersToo => ?_⟩
    exact congrArg some (answers.unique answersToo)

end Identified

/-! ### Names that stay -/

/-- The same workspaces are there, and are called what they were. -/
structure KeepsNames (before after : Model) : Prop where
  name : ∀ key, after.nameAt? key = before.nameAt? key
  reference : ∀ key, after.referenceAt? key = before.referenceAt? key

namespace KeepsNames

theorem trans {first second third : Model} (kept : first.KeepsNames second)
    (stillKept : second.KeepsNames third) : first.KeepsNames third where
  name key := (stillKept.name key).trans (kept.name key)
  reference key := (stillKept.reference key).trans (kept.reference key)

theorem of_get? {before after : Model} {change : Workspace → Workspace}
    (changed : ∀ key, after.workspaces.get? key = (before.workspaces.get? key).map change)
    (kept : ∀ key workspace, before.workspaces.get? key = some workspace →
      (change workspace).name = workspace.name ∧
        (change workspace).reference = workspace.reference) : before.KeepsNames after := by
  constructor
  · intro key
    rw [nameAt?, nameAt?, changed]
    cases present : before.workspaces.get? key with
    | none => rfl
    | some workspace => exact congrArg some (kept key workspace present).1
  · intro key
    rw [referenceAt?, referenceAt?, changed]
    cases present : before.workspaces.get? key with
    | none => rfl
    | some workspace => exact congrArg some (kept key workspace present).2

theorem of_outline {before after : Model} (same : after.outline = before.outline) :
    before.KeepsNames after := by
  have outlined : ∀ key, (after.workspaces.get? key).map Workspace.outline =
      (before.workspaces.get? key).map Workspace.outline := by
    intro key
    rw [← get?_outline, ← get?_outline, same]
  constructor
  · intro key
    have names := congrArg (Option.map Workspace.name) (outlined key)
    rwa [Option.map_map, Option.map_map] at names
  · intro key
    have references := congrArg (Option.map Workspace.reference) (outlined key)
    rwa [Option.map_map, Option.map_map] at references

/-- A name means the same workspace as long as workspaces are called the same. -/
theorem answers_iff {before after : Model} (kept : before.KeepsNames after) (raw : String)
    (key : Nat) : after.Answers raw key ↔ before.Answers raw key := by
  simp only [Answers, kept.name, kept.reference]

end KeepsNames

end Model

/-! ### Names that reports give -/

/-- A workspace is called what a raw name says. -/
structure Workspace.Bears (raw : String) (workspace : Workspace) : Prop where
  name : workspace.name = shownName raw
  reference : workspace.reference = workspaceReference raw

namespace Workspace

theorem bears_of_adopted {workspace : Workspace} {report : ReportedWorkspace}
    (adopted : workspace.adopt report = workspace) : workspace.Bears report.name := by
  rw [← adopted]
  exact ⟨rfl, rfl⟩

theorem Bears.of_outline {first second : Workspace} {raw : String} (bears : second.Bears raw)
    (same : first.outline = second.outline) : first.Bears raw where
  name := (congrArg Workspace.name same :).trans bears.name
  reference := (reference_of_outline same).trans bears.reference

end Workspace

/-- Reports under one id have one name. -/
def Snapshot.NamesIds (snapshot : Snapshot) : Prop :=
  ∀ first ∈ snapshot.workspaces, ∀ second ∈ snapshot.workspaces, first.id = second.id →
    first.name = second.name

theorem Snapshot.namesIds_of_distinct {snapshot : Snapshot}
    (distinct : (snapshot.workspaces.map ReportedWorkspace.id).Nodup) : snapshot.NamesIds :=
  fun _ first _ second same => congrArg _ (List.inj_on_of_nodup_map distinct first second same)

namespace Model

/-- Every workspace that is reported is called what the reports with its id say. -/
def BearsReports (snapshot : Snapshot) (model : Model) : Prop :=
  ∀ key workspace, model.workspaces.get? key = some workspace →
    ∀ report ∈ snapshot.workspaces, workspace.id = some report.id → workspace.Bears report.name

/-- When all reports have come, a report that the bar takes in has a workspace with its id and its
name. Another report under that id gives the workspace the same name again. -/
theorem exists_bears_of_foldl_ensure {bar : Bar} (snapshot : Snapshot)
    {reports : List ReportedWorkspace}
    (named : ∀ first ∈ reports, ∀ second ∈ reports, first.id = second.id →
      first.name = second.name)
    {report : ReportedWorkspace} (member : report ∈ reports)
    (taken : bar.takesReport report = true) {model : Model} (identified : model.Identified) :
    ∃ key workspace,
      (reports.foldl (fun model report => model.ensure bar snapshot report) model).workspaces.get?
        key = some workspace ∧ workspace.id = some report.id ∧ workspace.Bears report.name := by
  refine foldl_of_mem Identified (fun next : Model => ∃ key workspace,
      next.workspaces.get? key = some workspace ∧ workspace.id = some report.id ∧
        workspace.Bears report.name)
    member ?_ ?_ ?_ identified
  · exact fun next kept other _ => kept.ensure bar snapshot other
  · intro next kept
    obtain ⟨key, workspace, present, adopted⟩ := exists_adopted_of_ensure kept snapshot taken
    exact ⟨key, workspace, present, Workspace.id_of_adopted adopted,
      Workspace.bears_of_adopted adopted⟩
  · intro next kept ⟨key, workspace, present, reported, bears⟩ other otherMember _
    by_cases same : other.id = report.id
    · cases otherTaken : bar.takesReport other with
      | false =>
        rw [ensure_of_refused otherTaken]
        exact ⟨key, workspace, present, reported, bears⟩
      | true =>
        obtain ⟨otherKey, adopter, otherPresent, adopted⟩ :=
          exists_adopted_of_ensure kept snapshot otherTaken
        refine ⟨otherKey, adopter, otherPresent, ?_, ?_⟩
        · rw [Workspace.id_of_adopted adopted, same]
        · rw [← named other otherMember report member same]
          exact Workspace.bears_of_adopted adopted
    · obtain ⟨after, afterPresent, outlined⟩ :=
        get?_ensure_of_id_ne kept snapshot present reported (Ne.symm same)
      exact ⟨key, after, afterPresent, (Workspace.id_of_outline outlined).trans reported,
        bears.of_outline outlined⟩

/-- After alignment every workspace that is reported is called what its reports say. -/
theorem bearsReports_align {model : Model} (identified : model.Identified) (bar : Bar)
    {snapshot : Snapshot} (named : snapshot.NamesIds) :
    (model.align bar snapshot []).BearsReports snapshot := by
  have sorted := sortBy_perm (compareOn ReportedWorkspace.id) snapshot.workspaces
  have listed : ∀ report, report ∈ (sortBy (compareOn ReportedWorkspace.id)
      snapshot.workspaces).filter (fun report => !([] : List String).contains
        (shownName report.name)) ↔ report ∈ snapshot.workspaces := by
    intro report
    rw [List.mem_filter, sorted.mem_iff]
    exact and_iff_left rfl
  have removed := identified.removeStale bar snapshot
  intro key workspace present report member reported
  obtain ⟨accepted, acceptedMember, taken, same⟩ :=
    pruned_align identified bar snapshot [] key workspace _ present reported
  obtain ⟨other, bearer, otherPresent, otherReported, bears⟩ :=
    exists_bears_of_foldl_ensure snapshot
      (fun first firstMember second secondMember => named first ((listed first).mp firstMember)
        second ((listed second).mp secondMember))
      ((listed accepted).mpr acceptedMember) taken removed
  have here : key = other := (identified.align bar snapshot []).distinct present otherPresent
    reported (same ▸ otherReported)
  have found : some workspace = some bearer := by
    rw [← present, here]
    exact otherPresent
  rw [Option.some.inj found, ← named accepted acceptedMember report member same]
  exact bears

namespace BearsReports

variable {model : Model} {snapshot : Snapshot}

theorem of_outline {next : Model} (bears : model.BearsReports snapshot)
    (same : next.outline = model.outline) : next.BearsReports snapshot := by
  intro key workspace present report member reported
  obtain ⟨origin, originPresent, outlined⟩ := get?_of_outline same present
  exact (bears key origin originPresent report member
    ((Workspace.id_of_outline outlined).trans reported)).of_outline outlined.symm

theorem addDeclared (bears : model.BearsReports snapshot) (bar : Bar) (raw : String) :
    (model.addDeclared bar raw).BearsReports snapshot := by
  rw [Model.addDeclared]
  dsimp only
  split
  · intro key workspace present report member reported
    rw [SortedMap.get?_insert] at present
    split at present
    · rw [← Option.some.inj present] at reported
      cases reported
    · exact bears key workspace present report member reported
  · exact bears

theorem addAllDeclared (bears : model.BearsReports snapshot) (bar : Bar) :
    (model.addAllDeclared bar).BearsReports snapshot :=
  List.foldlRecOn bar.persistent (Model.addDeclared bar)
    (motive := fun next => BearsReports snapshot next) bears
    fun _ kept raw _ => kept.addDeclared bar raw

/-- An observation leaves the names that the reports have given. -/
theorem keepsNames_observe (bears : model.BearsReports snapshot) (bar : Bar) :
    model.KeepsNames (model.observe bar snapshot) := by
  refine KeepsNames.of_get? (get?_observe bar snapshot model) fun key workspace present => ?_
  show (workspace.reported snapshot).name = workspace.name ∧
    (workspace.reported snapshot).reference = workspace.reference
  rw [Workspace.reported]
  split
  · next report found =>
    obtain ⟨id, reported, listed⟩ := Option.bind_eq_some_iff.mp found
    have called := bears key workspace present report (List.mem_of_find?_eq_some listed)
      (Snapshot.id_of_reportOf? found)
    exact ⟨called.name.symm, called.reference.symm⟩
  · exact ⟨rfl, rfl⟩

end BearsReports

/-- The workspaces of a model before the flags of a tick are made out are called what their reports
say unless the destruction of a workspace was announced. -/
theorem bearsReports_catchUp {model : Model} (identified : model.Identified) (bar : Bar)
    {snapshot : Snapshot} (named : snapshot.NamesIds) {backlog : Backlog}
    (intact : ∀ id raw, .destroyed id raw ∉ backlog.workspaces) :
    (Tracker.catchUp bar snapshot backlog model).BearsReports snapshot := by
  have outlined := outline_catchUp bar snapshot backlog model
  rw [filterMap_destroyedName?_eq_nil intact] at outlined
  have changed := (identified.removeDestroyed snapshot backlog.workspaces).applyChanges bar snapshot
    backlog.workspaces
  exact ((bearsReports_align changed bar named).addAllDeclared bar).of_outline outlined

end Model

end Deskbar
