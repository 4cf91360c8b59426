/-
This file shows when no declared name is on two workspaces, so that in particular no workspace that
is not reported shows the name of one that is. A report that comes for the first time looks for a
workspace of its name that is not reported, and a declared workspace is only added when no one bears
its name. A workspace that is on the bar and gets another name does not look for anyone.

While changes are carried out declared names are on one workspace each: whoever gets a name that the
snapshot confirms has it already. When the reports come this may fail for a while, as a report may
come before another one takes the name from an older workspace. What holds then is weaker. Of the
workspaces that are not reported no two have one name, and none has a name under which a workspace
on the bar is reported.
-/

import Deskbar.Proofs.Admission
import Deskbar.Proofs.Destruction

namespace Deskbar

/-! ### Names that a snapshot confirms -/

/-- No two ids are reported under one declared name. -/
def Snapshot.NamesApart (bar : Bar) (snapshot : Snapshot) : Prop :=
  ∀ first second name, bar.declares name = true →
    bar.Accepts snapshot.workspaces first name → bar.Accepts snapshot.workspaces second name →
    first = second

/-- The name of a report is the only one that reports with its id have. -/
theorem Snapshot.PlacesIds.name_of_accepts {bar : Bar} {snapshot : Snapshot}
    (places : snapshot.PlacesIds) {report : ReportedWorkspace}
    (member : report ∈ snapshot.workspaces) {name : String}
    (accepts : bar.Accepts snapshot.workspaces report.id name) : shownName report.name = name := by
  obtain ⟨other, otherMember, -, same, rfl⟩ := accepts
  rw [(places other otherMember report member same).1]

theorem Bar.accepts_of_mem {bar : Bar} {snapshot : Snapshot} {report : ReportedWorkspace}
    (member : report ∈ snapshot.workspaces) (taken : bar.takesReport report = true) :
    bar.Accepts snapshot.workspaces report.id (shownName report.name) :=
  ⟨report, member, taken, rfl, rfl⟩

namespace Workspace

variable {bar : Bar} {snapshot : Snapshot}

theorem name_of_adopted {workspace : Workspace} {report : ReportedWorkspace}
    (adopted : workspace.adopt report = workspace) :
    workspace.name = shownName report.name := by
  rw [← adopted]
  rfl

/-- A workspace shows the declared name under which it is reported, if there is one. -/
def IsConfirmed (bar : Bar) (snapshot : Snapshot) (workspace : Workspace) : Prop :=
  ∀ id name, workspace.id = some id → bar.declares name = true →
    bar.Accepts snapshot.workspaces id name → workspace.name = name

/-- A declared name is on a workspace that is reported under it, or that was held to show it. -/
def IsRooted (bar : Bar) (snapshot : Snapshot) (held : Int → String → Prop)
    (workspace : Workspace) : Prop :=
  ∀ id, workspace.id = some id → bar.declares workspace.name = true →
    bar.Accepts snapshot.workspaces id workspace.name ∨ held id workspace.name

theorem isConfirmed_of_unreported {workspace : Workspace} (unreported : workspace.id = none) :
    workspace.IsConfirmed bar snapshot := by
  intro id name reported
  cases unreported.symm.trans reported

theorem isConfirmed_observe (places : snapshot.PlacesIds) (workspace : Workspace) :
    (workspace.observe bar snapshot).IsConfirmed bar snapshot := by
  intro id name own _ accepts
  rw [id_observe] at own
  obtain ⟨other, otherMember, -, rfl, rfl⟩ := accepts
  obtain ⟨report, member, found, same⟩ := Snapshot.exists_byId? otherMember
  have listed : snapshot.reportOf? workspace = some report := by
    rw [Snapshot.reportOf?, own, Option.bind_some, found]
  rw [name_of_adopted (adopt_observe bar listed), (places report member other otherMember same).1]

theorem isRooted_of_unreported {held : Int → String → Prop} {workspace : Workspace}
    (unreported : workspace.id = none) : workspace.IsRooted bar snapshot held := by
  intro id reported
  cases unreported.symm.trans reported

end Workspace

/-- Changes of names agree with the reports about declared names. -/
def WorkspaceChange.NamesAgree (bar : Bar) (snapshot : Snapshot)
    (changes : List WorkspaceChange) : Prop :=
  ∀ id raw name, .renamed id raw ∈ changes → bar.declares name = true →
    (bar.Accepts snapshot.workspaces id name ↔ shownName raw = name)

namespace Roster

variable {bar : Bar} {snapshot : Snapshot} {changes : List WorkspaceChange} {roster next : Roster}

theorem lasting_isConfirmed (places : snapshot.PlacesIds)
    (agree : WorkspaceChange.NamesAgree bar snapshot changes) :
    Lasting bar snapshot changes (Workspace.IsConfirmed bar snapshot) where
  adopted report member taken workspace adopted id name own _ accepts := by
    rw [Workspace.id_of_adopted adopted, Option.some.injEq] at own
    rw [Workspace.name_of_adopted adopted]
    exact places.name_of_accepts member (own ▸ accepts)
  left _ _ _ same := Workspace.isConfirmed_of_unreported (Workspace.id_of_left? same)
  renamed id raw member workspace _ own _ other name reported declared accepts := by
    have same : id = other := Option.some.inj (own.symm.trans reported)
    exact (agree id raw name member declared).mp (same ▸ accepts)
  renamedAway _ _ _ _ _ _ _ _ same :=
    Workspace.isConfirmed_of_unreported (Workspace.id_of_left? same)
  moved _ _ _ _ confirmed _ _ := confirmed
  movedAway _ _ _ _ _ _ _ _ same :=
    Workspace.isConfirmed_of_unreported (Workspace.id_of_left? same)
  added _ _ _ _ := Workspace.isConfirmed_of_unreported rfl

theorem lasting_isRooted {held : Int → String → Prop}
    (agree : WorkspaceChange.NamesAgree bar snapshot changes) :
    Lasting bar snapshot changes (Workspace.IsRooted bar snapshot held) where
  adopted report member taken workspace adopted id own _ := by
    rw [Workspace.id_of_adopted adopted, Option.some.injEq] at own
    rw [Workspace.name_of_adopted adopted, ← own]
    exact Or.inl (Bar.accepts_of_mem member taken)
  left _ _ _ same := Workspace.isRooted_of_unreported (Workspace.id_of_left? same)
  renamed id raw member workspace _ own _ other reported declared := by
    have same : id = other := Option.some.inj (own.symm.trans reported)
    exact Or.inl (same ▸ (agree id raw _ member declared).mpr rfl)
  renamedAway _ _ _ _ _ _ _ _ same := Workspace.isRooted_of_unreported (Workspace.id_of_left? same)
  moved _ _ _ _ rooted _ _ := rooted
  movedAway _ _ _ _ _ _ _ _ same := Workspace.isRooted_of_unreported (Workspace.id_of_left? same)
  added _ _ _ _ := Workspace.isRooted_of_unreported rfl

/-! ### While changes are carried out -/

/-- No declared name is on two workspaces. -/
def Solo (bar : Bar) (roster : Roster) : Prop :=
  ∀ first second one other, roster first = some one → roster second = some other →
    bar.declares one.name = true → one.name = other.name → first = second

theorem Solo.of_names (solo : roster.Solo bar)
    (named : ∀ key workspace, next key = some workspace →
      ∃ origin, roster key = some origin ∧ origin.name = workspace.name) : next.Solo bar := by
  intro first second one other found otherFound declared same
  obtain ⟨origin, present, name⟩ := named first one found
  obtain ⟨otherOrigin, otherPresent, otherName⟩ := named second other otherFound
  refine solo first second origin otherOrigin present otherPresent (name ▸ declared) ?_
  rw [name, otherName, same]

/-- A workspace may change as it likes if it gets no declared name that another one has. -/
theorem Solo.update {key : Nat} {changed : Option Workspace} (solo : roster.Solo bar)
    (free : ∀ after, changed = some after → bar.declares after.name = true →
      ∀ other found, other ≠ key → roster other = some found → found.name ≠ after.name) :
    Solo bar (Function.update roster key changed) := by
  intro first second one other found otherFound declared same
  rcases update_eq_some_iff.mp found with ⟨here, after⟩ | ⟨different, before⟩ <;>
    rcases update_eq_some_iff.mp otherFound with ⟨there, otherAfter⟩ | ⟨otherDifferent, otherBefore⟩
  · rw [here, there]
  · exact absurd same.symm (free one after declared second other otherDifferent otherBefore)
  · exact absurd same (free other otherAfter (same ▸ declared) first one different before)
  · exact solo first second one other before otherBefore declared same

/-- A workspace may take a declared name that it has. -/
theorem Solo.replace {key : Nat} {workspace : Workspace} {changed : Option Workspace}
    (solo : roster.Solo bar) (present : roster key = some workspace)
    (named : ∀ after, changed = some after → bar.declares after.name = true →
      workspace.name = after.name) : Solo bar (Function.update roster key changed) := by
  refine solo.update fun after same declared other found different otherPresent name => ?_
  have own := named after same declared
  exact different (solo other key found workspace otherPresent present (name ▸ declared)
    (name.trans own.symm))

theorem Solo.left {key : Nat} {workspace : Workspace} (solo : roster.Solo bar)
    (present : roster key = some workspace) :
    Solo bar (Function.update roster key workspace.left?) := by
  refine solo.replace present fun after same _ => ?_
  obtain ⟨-, rfl⟩ := Workspace.left?_eq_some_iff.mp same
  rfl

theorem Solo.cleared {change : WorkspaceChange} (solo : roster.Solo bar)
    (cleared : Cleared change roster next) : next.Solo bar := by
  cases cleared with
  | idle missing => exact solo
  | left present meant => exact solo.left present

theorem Solo.prune (solo : roster.Solo bar) (snapshot : Snapshot) :
    (roster.prune bar snapshot).Solo bar := by
  refine solo.of_names fun key workspace present => ?_
  obtain ⟨origin, originPresent, ⟨-, left⟩ | ⟨-, rfl⟩⟩ := exists_of_prune present
  · obtain ⟨-, rfl⟩ := Workspace.left?_eq_some_iff.mp left
    exact ⟨origin, originPresent, rfl⟩
  · exact ⟨origin, originPresent, rfl⟩

/-- No report is announced under a declared name that a workspace with another id was held to
show. -/
def AnnouncedApart (bar : Bar) (snapshot : Snapshot) (changes : List WorkspaceChange)
    (held : Int → String → Prop) : Prop :=
  ∀ change ∈ changes, ∀ report, snapshot.announced? change = some report →
    bar.takesReport report = true → bar.declares (shownName report.name) = true →
    ∀ id, held id (shownName report.name) → id = report.id

/-- Every declared name is on one workspace, and on the one that is reported under it. -/
structure Sorted (bar : Bar) (snapshot : Snapshot) (held : Int → String → Prop)
    (roster : Roster) : Prop where
  solo : roster.Solo bar
  confirmed : roster.Every (Workspace.IsConfirmed bar snapshot)
  rooted : roster.Every (Workspace.IsRooted bar snapshot held)

/-- A report that comes with a change takes a declared name from no workspace. -/
theorem Sorted.solo_ensured {held : Int → String → Prop} {report : ReportedWorkspace}
    (sorted : roster.Sorted bar snapshot held) (ensured : roster.Ensured bar report next)
    (member : report ∈ snapshot.workspaces) (namesApart : snapshot.NamesApart bar)
    (apart : bar.takesReport report = true → bar.declares (shownName report.name) = true →
      ∀ id, held id (shownName report.name) → id = report.id) : next.Solo bar := by
  cases ensured with
  | refused refused => exact sorted.solo
  | adopted taken present own =>
    refine sorted.solo.replace present fun after same declared => ?_
    rw [← Option.some.inj same] at declared ⊢
    exact sorted.confirmed _ _ present report.id _ own declared (Bar.accepts_of_mem member taken)
  | attached taken present unreported named missing =>
    refine sorted.solo.replace present fun after same _ => ?_
    rw [← Option.some.inj same]
    exact named
  | created taken absent missing unnamed =>
    refine sorted.solo.update fun after same declared other found _ otherPresent name => ?_
    rw [← Option.some.inj same] at declared name
    have shown : found.name = shownName report.name := name
    cases own : found.id with
    | none => exact unnamed other found otherPresent own shown
    | some id =>
      refine missing other found otherPresent (own.trans (congrArg some ?_))
      have rooted := sorted.rooted other found otherPresent id own
      rw [shown] at rooted
      rcases rooted declared with accepts | holds
      · exact namesApart id report.id _ declared accepts (Bar.accepts_of_mem member taken)
      · exact apart taken declared id holds

theorem Sorted.solo_changed {held : Int → String → Prop} {change : WorkspaceChange}
    (sorted : roster.Sorted bar snapshot held) (changed : Changed bar snapshot change roster next)
    (member : change ∈ changes) (namesApart : snapshot.NamesApart bar)
    (agree : WorkspaceChange.NamesAgree bar snapshot changes)
    (apart : AnnouncedApart bar snapshot changes held) : next.Solo bar := by
  cases changed with
  | idle => exact sorted.solo
  | ensured announced ensured =>
    exact sorted.solo_ensured ensured (Snapshot.mem_of_announced? announced) namesApart
      (apart _ member _ announced)
  | renamed present own kept =>
    refine sorted.solo.replace present fun after same declared => ?_
    rw [← Option.some.inj same] at declared ⊢
    exact sorted.confirmed _ _ present _ _ own declared ((agree _ _ _ member declared).mpr rfl)
  | renamedAway present own refused =>
    refine sorted.solo.replace present fun after same declared => ?_
    obtain ⟨-, rfl⟩ := Workspace.left?_eq_some_iff.mp same
    exact sorted.confirmed _ _ present _ _ own declared ((agree _ _ _ member declared).mpr rfl)
  | moved present called kept =>
    refine sorted.solo.replace present fun after same _ => ?_
    rw [← Option.some.inj same]
    rfl
  | movedAway present called refused =>
    refine sorted.solo.replace present fun after same _ => ?_
    obtain ⟨-, rfl⟩ := Workspace.left?_eq_some_iff.mp same
    rfl

theorem Sorted.changed {held : Int → String → Prop} {change : WorkspaceChange}
    (sorted : roster.Sorted bar snapshot held) (changed : Changed bar snapshot change roster next)
    (member : change ∈ changes) (places : snapshot.PlacesIds)
    (namesApart : snapshot.NamesApart bar)
    (agree : WorkspaceChange.NamesAgree bar snapshot changes)
    (apart : AnnouncedApart bar snapshot changes held) : next.Sorted bar snapshot held where
  solo := sorted.solo_changed changed member namesApart agree apart
  confirmed := (lasting_isConfirmed places agree).every_changed member changed sorted.confirmed
  rooted := (lasting_isRooted agree).every_changed member changed sorted.rooted

/-! ### While the reports come -/

/-- Of the workspaces that are not reported no two have one declared name, and none has one under
which a workspace is reported. -/
structure Parted (bar : Bar) (snapshot : Snapshot) (roster : Roster) : Prop where
  confirmed : roster.Every (Workspace.IsConfirmed bar snapshot)
  unreported : ∀ first second one other, roster first = some one → roster second = some other →
    one.id = none → other.id = none → bar.declares one.name = true → one.name = other.name →
    first = second
  reported : ∀ first second one other id, roster first = some one → roster second = some other →
    one.id = some id → other.id = none → bar.declares other.name = true →
    ¬bar.Accepts snapshot.workspaces id other.name

theorem Solo.parted (solo : roster.Solo bar)
    (confirmed : roster.Every (Workspace.IsConfirmed bar snapshot)) :
    roster.Parted bar snapshot where
  confirmed := confirmed
  unreported first second one other found otherFound _ _ declared same :=
    solo first second one other found otherFound declared same
  reported first second one other id found otherFound own unreported declared accepts := by
    have name := confirmed first one found id other.name own declared accepts
    have same := solo first second one other found otherFound (name ▸ declared) name
    rw [same, otherFound] at found
    cases unreported.symm.trans (Option.some.inj found ▸ own)

theorem Ensured.before_of_unreported {report : ReportedWorkspace}
    (ensured : roster.Ensured bar report next) {key : Nat} {workspace : Workspace}
    (present : next key = some workspace) (unreported : workspace.id = none) :
    roster key = some workspace := by
  refine (ensured.origin present).resolve_left fun adopted => ?_
  cases unreported.symm.trans (Workspace.id_of_adopted adopted.2)

/-- A report takes its name away from the workspaces that are not reported. -/
theorem Parted.not_named_of_ensured {report : ReportedWorkspace}
    (parted : roster.Parted bar snapshot) (ensured : roster.Ensured bar report next)
    (member : report ∈ snapshot.workspaces) (taken : bar.takesReport report = true)
    (declared : bar.declares (shownName report.name) = true) :
    next.Every fun workspace => workspace.id = none →
      workspace.name ≠ shownName report.name := by
  intro second other present unreported name
  have before := ensured.before_of_unreported present unreported
  cases ensured with
  | refused refused => cases taken.symm.trans refused
  | adopted _ there own =>
    refine parted.reported _ second _ other report.id there before own unreported ?_ ?_
    · exact name ▸ declared
    · exact name ▸ Bar.accepts_of_mem member taken
  | attached _ there without named missing =>
    have same := parted.unreported _ second _ other there before without unreported
      (named ▸ declared) (named.trans name.symm)
    rw [← same, Function.update_self, Option.some.injEq] at present
    rw [← present] at unreported
    cases unreported
  | created _ absent missing unnamed => exact unnamed second other before unreported name

theorem Parted.ensured {report : ReportedWorkspace} (parted : roster.Parted bar snapshot)
    (ensured : roster.Ensured bar report next) (member : report ∈ snapshot.workspaces)
    (places : snapshot.PlacesIds) : next.Parted bar snapshot := by
  have agree : WorkspaceChange.NamesAgree bar snapshot [] :=
    fun _ _ _ renamed => absurd renamed List.not_mem_nil
  refine ⟨(lasting_isConfirmed places agree).every_ensured member ensured parted.confirmed,
    fun first second one other found otherFound without otherWithout declared same => ?_,
    fun first second one other id found otherFound own without declared accepts => ?_⟩
  · exact parted.unreported first second one other (ensured.before_of_unreported found without)
      (ensured.before_of_unreported otherFound otherWithout) without otherWithout declared same
  · rcases ensured.origin found with ⟨taken, adopted⟩ | before
    · have same : report.id = id :=
        Option.some.inj ((Workspace.id_of_adopted adopted).symm.trans own)
      have name := places.name_of_accepts member (same ▸ accepts)
      exact parted.not_named_of_ensured ensured member taken (name ▸ declared) second other
        otherFound without name.symm
    · exact parted.reported first second one other id before
        (ensured.before_of_unreported otherFound without) own without declared accepts

theorem Parted.added {raw : String} (parted : roster.Parted bar snapshot)
    (added : Added bar raw roster next) : next.Parted bar snapshot := by
  cases added with
  | idle => exact parted
  | @added key absent unnamed taken =>
    have origin : ∀ other found, Function.update roster key
        (some (Workspace.declared key raw (bar.config.output.getD ""))) other = some found →
        other = key ∧ found.id = none ∧ found.name = shownName raw ∨
          roster other = some found ∧ found.name ≠ shownName raw := by
      intro other found present
      rcases update_eq_some_iff.mp present with ⟨here, same⟩ | ⟨-, before⟩
      · rw [← Option.some.inj same]
        exact Or.inl ⟨here, rfl, rfl⟩
      · exact Or.inr ⟨before, fun name => unnamed other found before (Or.inl name)⟩
    refine ⟨parted.confirmed.update fun after same => ?_,
      fun first second one other found otherFound without otherWithout declared same => ?_,
      fun first second one other id found otherFound own without declared accepts => ?_⟩
    · rw [← Option.some.inj same]
      exact Workspace.isConfirmed_of_unreported rfl
    · rcases origin first one found with ⟨here, -, name⟩ | ⟨before, name⟩ <;>
        rcases origin second other otherFound with ⟨there, -, otherName⟩ | ⟨otherBefore, otherName⟩
      · rw [here, there]
      · exact absurd (same.symm.trans name) otherName
      · exact absurd (same.trans otherName) name
      · exact parted.unreported first second one other before otherBefore without otherWithout
          declared same
    · rcases origin first one found with ⟨-, unreported, -⟩ | ⟨before, name⟩
      · cases unreported.symm.trans own
      · rcases origin second other otherFound with ⟨-, -, otherName⟩ | ⟨otherBefore, -⟩
        · have shown := parted.confirmed first one before id other.name own declared accepts
          exact name (shown.trans otherName)
        · exact parted.reported first second one other id before otherBefore own without declared
            accepts

/-- An observation leaves the names of those that are not reported, and gives the others the names
under which they are reported. -/
theorem Parted.observed (parted : roster.Parted bar snapshot) (places : snapshot.PlacesIds) :
    (roster.observed bar snapshot).Parted bar snapshot where
  confirmed key workspace present := by
    obtain ⟨origin, -, rfl⟩ := Option.map_eq_some_iff.mp present
    exact Workspace.isConfirmed_observe places origin
  unreported first second one other found otherFound without otherWithout declared same := by
    obtain ⟨origin, present, rfl⟩ := Option.map_eq_some_iff.mp found
    obtain ⟨otherOrigin, otherPresent, rfl⟩ := Option.map_eq_some_iff.mp otherFound
    rw [Workspace.id_observe] at without otherWithout
    rw [Workspace.name_observe_of_unreported bar snapshot without] at declared same
    rw [Workspace.name_observe_of_unreported bar snapshot otherWithout] at same
    exact parted.unreported first second origin otherOrigin present otherPresent without
      otherWithout declared same
  reported first second one other id found otherFound own without declared accepts := by
    obtain ⟨origin, present, rfl⟩ := Option.map_eq_some_iff.mp found
    obtain ⟨otherOrigin, otherPresent, rfl⟩ := Option.map_eq_some_iff.mp otherFound
    rw [Workspace.id_observe] at own without
    rw [Workspace.name_observe_of_unreported bar snapshot without] at declared accepts
    exact parted.reported first second origin otherOrigin id present otherPresent own without
      declared accepts

theorem Settles.parted {excluded : List String} {after : Roster}
    (settles : roster.Settles bar snapshot excluded after)
    (parted : (roster.prune bar snapshot).Parted bar snapshot) (places : snapshot.PlacesIds) :
    after.Parted bar snapshot := by
  obtain ⟨ensured, added⟩ := settles
  have aligned := ensured.keeps (fun report member before after step parted =>
    Parted.ensured parted step (Snapshot.mem_inOrder_iff.mp member).1 places) parted
  have declared := added.keeps (fun raw member before after step parted =>
    Parted.added parted step) aligned
  exact declared.observed places

/-- After the workspaces have settled those that are reported show the names of their reports. -/
theorem Settles.accepts {excluded : List String} {after : Roster}
    (settles : roster.Settles bar snapshot excluded after) (places : snapshot.PlacesIds) :
    after.Every fun workspace => ∀ id, workspace.id = some id →
      bar.Accepts snapshot.workspaces id workspace.name := by
  intro key workspace present id own
  obtain ⟨report, member, taken, adopted⟩ := settles.faithful places key workspace present id own
  rw [Workspace.id_of_adopted adopted, Option.some.injEq] at own
  rw [Workspace.name_of_adopted adopted, ← own]
  exact Bar.accepts_of_mem member taken

/-- When all that are reported show the names of their reports no declared name is on two. -/
theorem Parted.solo (parted : roster.Parted bar snapshot) (distinct : roster.Distinct)
    (accepts : roster.Every fun workspace => ∀ id, workspace.id = some id →
      bar.Accepts snapshot.workspaces id workspace.name)
    (namesApart : snapshot.NamesApart bar) : roster.Solo bar := by
  intro first second one other found otherFound declared same
  cases own : one.id with
  | some id =>
    have accepted := accepts first one found id own
    cases otherOwn : other.id with
    | some otherId =>
      have otherAccepted := accepts second other otherFound otherId otherOwn
      rw [← same] at otherAccepted
      have ids : id = otherId := namesApart id otherId one.name declared accepted otherAccepted
      exact distinct first second one other id found otherFound own (ids ▸ otherOwn)
    | none =>
      rw [same] at declared accepted
      exact absurd accepted
        (parted.reported first second one other id found otherFound own otherOwn declared)
  | none =>
    cases otherOwn : other.id with
    | some otherId =>
      have otherAccepted := accepts second other otherFound otherId otherOwn
      rw [← same] at otherAccepted
      exact absurd otherAccepted
        (parted.reported second first other one otherId otherFound found otherOwn own declared)
    | none =>
      exact parted.unreported first second one other found otherFound own otherOwn declared same

/-- When the workspaces have settled no declared name is on two of them. -/
theorem Settles.solo {excluded : List String} {after : Roster}
    (settles : roster.Settles bar snapshot excluded after)
    (parted : (roster.prune bar snapshot).Parted bar snapshot) (distinct : after.Distinct)
    (places : snapshot.PlacesIds) (namesApart : snapshot.NamesApart bar) : after.Solo bar :=
  (settles.parted parted places).solo distinct (settles.accepts places) namesApart

/-- A destruction leaves those that are reported as they are. -/
theorem Cleared.before_of_reported {change : WorkspaceChange} (cleared : Cleared change roster next)
    {key : Nat} {workspace : Workspace} {id : Int} (present : next key = some workspace)
    (own : workspace.id = some id) : roster key = some workspace := by
  cases cleared with
  | idle missing => exact present
  | left there meant =>
    rcases update_eq_some_iff.mp present with ⟨-, left⟩ | ⟨-, before⟩
    · cases (Workspace.id_of_left? left).symm.trans own
    · exact before

end Roster

/-! ### Runs -/

namespace Tracker

/-- Whether a workspace with an id shows a name, and will not be destroyed at the next tick. -/
def Holds (tracker : Tracker) (id : Int) (name : String) : Prop :=
  (∀ raw, .destroyed (some id) raw ∉ tracker.carried) ∧
    ∃ key workspace, tracker.model.workspaces.get? key = some workspace ∧
      workspace.id = some id ∧ workspace.name = name

/-- Whether no declared name goes to another workspace at a tick that has it from no report. Two ids
are not reported under one declared name. A workspace on the bar is not reported under a declared
name that it does not show, and changes of names agree with the reports about declared names. A
report that changes announce does not show a declared name that another workspace still holds. -/
structure IsSteady (tracker : Tracker) (snapshot : Snapshot) : Prop where
  namesApart : snapshot.NamesApart tracker.bar
  given : tracker.startsOver = false →
    tracker.model.roster.Every (Workspace.IsConfirmed tracker.bar snapshot)
  agree : WorkspaceChange.NamesAgree tracker.bar snapshot tracker.carried
  announced : Roster.AnnouncedApart tracker.bar snapshot tracker.carried tracker.Holds
  apart : WorkspaceChange.Apart tracker.carried

/-- Once the announced destructions have been carried out every declared name is on one workspace,
which shows it on account of a report or holds it. -/
theorem sorted_of_clearing {tracker : Tracker} (identified : tracker.model.Identified)
    (solo : tracker.model.roster.Solo tracker.bar) {snapshot : Snapshot}
    (given : tracker.model.roster.Every (Workspace.IsConfirmed tracker.bar snapshot))
    (lasting : Roster.Lasting tracker.bar snapshot tracker.carried
      (Workspace.IsConfirmed tracker.bar snapshot)) {cleared : Roster}
    (clearing : Chained Roster.Cleared tracker.carried tracker.model.roster cleared) :
    cleared.Sorted tracker.bar snapshot tracker.Holds where
  solo := clearing.keeps (fun _ _ _ _ step solo => Roster.Solo.cleared solo step) solo
  confirmed := clearing.keeps (fun _ _ _ _ => lasting.every_cleared) given
  rooted := by
    have before : ∀ key workspace id, cleared key = some workspace → workspace.id = some id →
        tracker.model.roster key = some workspace := by
      refine clearing.keeps (motive := fun next => ∀ key workspace id,
        next key = some workspace → workspace.id = some id →
          tracker.model.roster key = some workspace) ?_ fun _ _ _ present _ => present
      exact fun change _ first next step before key workspace id present own =>
        before key workspace id (step.before_of_reported present own) own
    refine fun key workspace present id own _ => Or.inr ⟨fun raw destroyed => ?_, ?_⟩
    · exact Roster.lacks_of_clearing clearing destroyed identified.distinct_roster key workspace
        present own
    · obtain ⟨origin, there, rfl⟩ := Model.exists_of_roster (before key workspace id present own)
      exact ⟨key, origin, there, own, rfl⟩

theorem solo_nextModel {tracker : Tracker} (identified : tracker.model.Identified)
    (solo : tracker.model.roster.Solo tracker.bar) {snapshot : Snapshot}
    (places : snapshot.PlacesIds) (steady : tracker.IsSteady snapshot) :
    (tracker.nextModel snapshot).roster.Solo tracker.bar := by
  have distinct := (identified.nextModel snapshot).distinct_roster
  cases Model.ticks_nextModel identified snapshot with
  | fresh _ settles =>
    refine settles.solo (Roster.Solo.parted ?_ ?_) distinct places steady.namesApart
    · exact fun _ _ _ _ present => by cases present
    · exact fun _ _ present => by cases present
  | @caughtUp cleared changed _ carriesOn clearing changing settles =>
    obtain ⟨namesApart, given, agree, announced, -⟩ := steady
    have confirmed := Roster.lasting_isConfirmed places agree
    rw [← carried_eq carriesOn] at clearing changing
    have sorted := sorted_of_clearing identified solo (given carriesOn) confirmed clearing
    have stillSorted := changing.keeps (fun change member _ _ step sorted =>
      Roster.Sorted.changed sorted step member places namesApart agree announced) sorted
    refine settles.solo ?_ distinct places namesApart
    exact (stillSorted.solo.prune snapshot).parted (confirmed.every_prune stillSorted.confirmed)

/-- At the end of every steady run with distinct ids no declared name is on two workspaces. -/
theorem solo_run [Pattern.Engine] {config : BarConfig} {inputs : List Input}
    (distinct : EveryTick IsDistinct (ofConfig config) inputs)
    (steady : EveryTick IsSteady (ofConfig config) inputs) :
    (run config inputs).model.roster.Solo (Bar.ofConfig config) := by
  refine (distinct.and steady).run_induction (motive := fun tracker =>
    tracker.model.roster.Solo (Bar.ofConfig config)) ?_ ?_ ?_
  · exact fun _ _ _ _ present => by cases present
  · exact fun tracker event solo => solo
  · intro before snapshot solo every
    obtain ⟨isDistinct, isSteady⟩ := every.last
    rw [← bar_run config before] at solo ⊢
    exact solo_nextModel (Model.identified_run config before) solo
      (Snapshot.placesIds_of_distinct isDistinct) isSteady

/-- After every run with distinct ids whose ticks and the next one are steady, no workspace that is
not reported shows the name of one that is, and no declared name is on two workspaces. -/
theorem alone_tick [Pattern.Engine] (config : BarConfig) (inputs : List Input) {snapshot : Snapshot}
    (distinct : EveryTick IsDistinct (ofConfig config) (inputs ++ [.snapshot snapshot]))
    (steady : EveryTick IsSteady (ofConfig config) (inputs ++ [.snapshot snapshot])) :
    ∀ first second one other,
      ((run config inputs).tick snapshot).model.workspaces.get? first = some one →
      ((run config inputs).tick snapshot).model.workspaces.get? second = some other →
      (one.id = none → other.id.isSome = true → one.name ≠ other.name) ∧
        ((Bar.ofConfig config).declares one.name = true → one.name = other.name →
          first = second) := by
  have orderly : EveryTick IsOrderly (ofConfig config) (inputs ++ [.snapshot snapshot]) :=
    (distinct.and steady).mono fun _ _ both carriesOn =>
      ⟨Snapshot.placesIds_of_distinct both.1, carried_eq carriesOn ▸ both.2.apart⟩
  have solo := solo_run distinct steady
  have accounted := isAccounted_run orderly
  rw [run_append] at solo accounted
  intro first second one other found otherFound
  have alone := solo first second one.outline other.outline (Model.roster_of_get? found)
    (Model.roster_of_get? otherFound)
  refine ⟨fun unreported reported name => ?_, alone⟩
  have notLost := (accounted first one.outline (Model.roster_of_get? found)).notLost
  have declared : (Bar.ofConfig config).declares one.name = true :=
    (Bool.not_eq_false _).mp fun undeclared => notLost ⟨unreported, undeclared⟩
  rw [← alone declared name, found] at otherFound
  rw [← Option.some.inj otherFound, unreported] at reported
  cases reported

/-- A snapshot with one report has no two ids under one name. -/
theorem namesApart_singleton (bar : Bar) (report : ReportedWorkspace) :
    ({ workspaces := [report] } : Snapshot).NamesApart bar := by
  rintro first second name - ⟨one, oneMember, -, rfl, -⟩ ⟨other, otherMember, -, rfl, -⟩
  rw [List.mem_singleton.mp oneMember, List.mem_singleton.mp otherMember]

/-- A declared workspace is destroyed, and another one is created under its name. -/
def handoverRun : List Input :=
  [.snapshot (snapshotOf "web" "DP-1"), .event (.workspace (.destroyed (some 1) "web")),
    .event (.workspace (.created (some 2) "web"))]

/-- A report of the workspace that was created. -/
def handedSnapshot : Snapshot :=
  { workspaces := [{ id := 2, name := "web", monitor := "DP-1" }] }

theorem isSteady_handoverRun : (run boundConfig handoverRun).IsSteady handedSnapshot := by
  have carried : (run boundConfig handoverRun).carried =
      [.destroyed (some 1) "web", .created (some 2) "web"] := by decide
  have ids : ∀ workspace ∈ (run boundConfig handoverRun).model.workspaces.values,
      workspace.id = some 1 := by decide
  constructor
  · exact namesApart_singleton _ _
  · rintro - key workspace present id name own - ⟨report, member, -, rfl, -⟩
    obtain ⟨origin, there, rfl⟩ := Model.exists_of_roster present
    have first := ids origin (SortedMap.mem_values_iff.mpr ⟨key, there⟩)
    rw [List.mem_singleton.mp member] at own
    cases first.symm.trans own
  · intro id raw name renamed
    rw [carried] at renamed
    simp at renamed
  · rintro change - report - - - id ⟨kept, key, workspace, present, own, -⟩
    have first := ids workspace (SortedMap.mem_values_iff.mpr ⟨key, present⟩)
    rw [carried] at kept
    refine absurd ?_ (kept "web")
    rw [← own, first]
    exact List.mem_cons_self
  · intro id raw name monitor _ moved
    rw [carried] at moved
    simp at moved

theorem alone_tick_handoverRun :
    EveryTick IsDistinct (ofConfig boundConfig) (handoverRun ++ [.snapshot handedSnapshot]) ∧
      EveryTick IsSteady (ofConfig boundConfig) (handoverRun ++ [.snapshot handedSnapshot]) ∧
      ∀ first second one other,
        ((run boundConfig handoverRun).tick handedSnapshot).model.workspaces.get? first =
          some one →
        ((run boundConfig handoverRun).tick handedSnapshot).model.workspaces.get? second =
          some other →
        (one.id = none → other.id.isSome = true → one.name ≠ other.name) ∧
          ((Bar.ofConfig boundConfig).declares one.name = true → one.name = other.name →
            first = second) := by
  have distinct : EveryTick IsDistinct (ofConfig boundConfig)
      (handoverRun ++ [.snapshot handedSnapshot]) :=
    ⟨List.nodup_singleton _, List.nodup_singleton _, trivial⟩
  have first : (ofConfig boundConfig).IsSteady (snapshotOf "web" "DP-1") :=
    { namesApart := namesApart_singleton _ _
      given := fun carriesOn => by cases carriesOn
      agree := fun _ _ _ renamed => absurd renamed List.not_mem_nil
      announced := fun _ member => absurd member List.not_mem_nil
      apart := fun _ _ _ _ destroyed => absurd destroyed List.not_mem_nil }
  have steady : EveryTick IsSteady (ofConfig boundConfig)
      (handoverRun ++ [.snapshot handedSnapshot]) := ⟨first, isSteady_handoverRun, trivial⟩
  exact ⟨distinct, steady, alone_tick boundConfig handoverRun distinct steady⟩

/-- A declared workspace is on the bar, and another one is renamed to its name. -/
def renamedToDeclaredRun : List Input :=
  [.snapshot (snapshotOf "a" "DP-1"), .event (.workspace (.renamed 1 "web"))]

/-- A declared workspace is on the bar, and one is created under its name before it is gone. -/
def createdEarlyRun : List Input :=
  [.snapshot (snapshotOf "web" "DP-1"), .event (.workspace (.created (some 2) "web"))]

/-- Reports of a declared workspace and of a special one that shows its name. -/
def twinSnapshot : Snapshot :=
  { workspaces := [{ id := 1, name := "web" }, { id := -98, name := "special:web" }] }

/-- A declared workspace and a special one of its name are on the bar, and the first one is
destroyed. -/
def twinRun : List Input :=
  [.snapshot twinSnapshot, .event (.workspace (.destroyed (some 1) "web"))]

/-- A workspace that is not reported shows the name of one that is when a workspace is renamed to a
declared name, when one comes under a declared name before the other one has gone, and when of two
that are reported under a declared name the one goes. -/
theorem not_alone_renamedToDeclared :
    (((run boundConfig renamedToDeclaredRun).tick
        (snapshotOf "web" "DP-1")).model.workspaces.values.map fun workspace =>
          (workspace.id, workspace.name)) = [(some 1, "web"), (none, "web")] ∧
      (((run boundConfig createdEarlyRun).tick handedSnapshot).model.workspaces.values.map
        fun workspace => (workspace.id, workspace.name)) = [(none, "web"), (some 2, "web")] ∧
      (((run { showSpecial := true, declarations := [.named "web" []] } twinRun).tick
        { workspaces := [{ id := -98, name := "special:web" }] }).model.workspaces.values.map
          fun workspace => (workspace.id, workspace.name)) =
        [(some (-98), "web"), (none, "web")] := by
  decide

end Tracker

end Deskbar
