/-
This file shows that no workspace is lost: one that is neither reported nor declared is not on the
bar after a tick. Within a tick there may be one. A workspace keeps the flag of a declared one when
a report with its id gives it another name, and a removal that comes before the flags are made out
lets go of it by that flag.

The report that gave the name is there, though, and its id is on no workspace any more. Such a
report is a partner of the lost workspace, and lost workspaces have different partners. When the
reports come, each one goes to a workspace that is lost under its name as long as there is one, so
no one is lost in the end. A name whose reports are left out must therefore not be one under which a
workspace may be lost, which are the names of moved workspaces.
-/

import Mathlib.Logic.Equiv.Basic
import Deskbar.Proofs.Roster

namespace Deskbar

/-! ### References -/

/-- How windows refer to a workspace that shows a name. -/
def referenceOf (name : String) : String := String.ofList (name.toList.takeWhile (· ≠ ' '))

/-- Whether windows refer to a workspace by the name that it shows. -/
def Workspace.IsReferred (workspace : Workspace) : Prop :=
  workspace.reference = referenceOf workspace.name

theorem Workspace.IsReferred.of_isCalled {workspace : Workspace} (referred : workspace.IsReferred)
    {raw : String} (called : workspace.IsCalled raw) :
    referenceOf workspace.name = workspaceReference raw := by
  rcases called with shown | same
  · rw [shown]
    rfl
  · rw [← referred, same]

theorem Workspace.isReferred_of_adopted {workspace : Workspace} {report : ReportedWorkspace}
    (adopted : workspace.adopt report = workspace) : workspace.IsReferred := by
  rw [← adopted]
  rfl

theorem Workspace.IsReferred.observe {workspace : Workspace} (referred : workspace.IsReferred)
    (bar : Bar) (snapshot : Snapshot) : (workspace.observe bar snapshot).IsReferred := by
  show (workspace.reported snapshot).IsReferred
  unfold Workspace.reported
  split
  · rfl
  · exact referred

theorem Roster.lasting_isReferred (bar : Bar) (snapshot : Snapshot)
    (changes : List WorkspaceChange) :
    Roster.Lasting bar snapshot changes Workspace.IsReferred where
  adopted _ _ _ _ adopted := Workspace.isReferred_of_adopted adopted
  left workspace left referred same := by
    obtain ⟨-, rfl⟩ := Workspace.left?_eq_some_iff.mp same
    exact referred
  renamed _ _ _ _ _ _ _ := rfl
  renamedAway _ _ _ _ _ _ _ _ same := by
    obtain ⟨-, rfl⟩ := Workspace.left?_eq_some_iff.mp same
    rfl
  moved _ _ _ _ referred _ _ := referred
  movedAway _ _ _ _ _ referred _ _ same := by
    obtain ⟨-, rfl⟩ := Workspace.left?_eq_some_iff.mp same
    exact referred
  added _ _ _ _ := rfl

theorem Roster.Every.isReferred_observed {roster : Roster}
    (every : roster.Every Workspace.IsReferred) (bar : Bar) (snapshot : Snapshot) :
    (roster.observed bar snapshot).Every Workspace.IsReferred := by
  intro key workspace present
  obtain ⟨origin, originPresent, rfl⟩ := Option.map_eq_some_iff.mp present
  exact (every key origin originPresent).observe bar snapshot

/-- At the end of every run windows refer to every workspace by the name that it shows. -/
theorem Tracker.isReferred_run [Pattern.Engine] (config : BarConfig) (inputs : List Tracker.Input) :
    (Tracker.run config inputs).model.roster.Every Workspace.IsReferred := by
  refine (Tracker.run_induction (motive := fun tracker => tracker.model.Identified ∧
    tracker.model.roster.Every Workspace.IsReferred) ⟨Model.identified_empty, ?_⟩ ?_).2
  · exact fun _ _ present => by cases present
  · rintro tracker ⟨identified, every⟩ (event | snapshot) -
    · exact ⟨identified, every⟩
    · obtain ⟨declared, declaredEvery, same⟩ :=
        (Roster.lasting_isReferred tracker.bar snapshot _).every_ticks
          (Model.ticks_nextModel identified snapshot) every
      refine ⟨identified.nextModel snapshot, ?_⟩
      show (tracker.nextModel snapshot).roster.Every Workspace.IsReferred
      rw [same]
      exact declaredEvery.isReferred_observed tracker.bar snapshot

/-! ### Lost workspaces and their partners -/

/-- Whether a workspace is neither reported nor declared. -/
def Workspace.IsLost (bar : Bar) (workspace : Workspace) : Prop :=
  workspace.id = none ∧ bar.declares workspace.name = false

theorem Workspace.not_isLost_of_reported {bar : Bar} {workspace : Workspace} {id : Int}
    (reported : workspace.id = some id) : ¬workspace.IsLost bar := by
  rintro ⟨unreported, -⟩
  cases unreported.symm.trans reported

/-- Whether one of some reports that the bar takes in has an id and a shown name. -/
def Bar.Accepts (bar : Bar) (reports : List ReportedWorkspace) (id : Int) (name : String) : Prop :=
  ∃ report ∈ reports, bar.takesReport report = true ∧ report.id = id ∧
    shownName report.name = name

namespace Roster

/-- Every lost workspace has a partner of its own: an id that is on no workspace, and that one of
the reports has under the name of the lost workspace. -/
structure MatchedBy (bar : Bar) (reports : List ReportedWorkspace) (roster : Roster)
    (partner : Nat → Int) : Prop where
  accepted : ∀ key workspace, roster key = some workspace → workspace.IsLost bar →
    bar.Accepts reports (partner key) workspace.name
  missing : ∀ key workspace, roster key = some workspace → workspace.IsLost bar →
    roster.Lacks (partner key)
  apart : ∀ first second one other, roster first = some one → roster second = some other →
    one.IsLost bar → other.IsLost bar → partner first = partner second → first = second

/-- Whether lost workspaces have partners. -/
def Matched (bar : Bar) (reports : List ReportedWorkspace) (roster : Roster) : Prop :=
  ∃ partner, MatchedBy bar reports roster partner

section Partners

variable {bar : Bar} {reports : List ReportedWorkspace} {roster next : Roster}
  {partner : Nat → Int} {key : Nat} {workspace : Workspace}

theorem matched_of_noneLost (none : roster.Every fun workspace => ¬workspace.IsLost bar) :
    roster.Matched bar reports :=
  ⟨fun _ => 0, fun key workspace present lost => absurd lost (none key workspace present),
    fun key workspace present lost => absurd lost (none key workspace present),
    fun first _ one _ present _ lost _ _ => absurd lost (none first one present)⟩

/-- Where no report is left no workspace can be lost. -/
theorem Matched.noneLost (matched : roster.Matched bar []) :
    roster.Every fun workspace => ¬workspace.IsLost bar := by
  obtain ⟨partner, matchedBy⟩ := matched
  intro key workspace present lost
  obtain ⟨report, member, -⟩ := matchedBy.accepted key workspace present lost
  cases member

/-- Partners stay when no workspace is lost that was not, and no id comes onto the bar. -/
theorem Matched.of_bringsNoId (matched : roster.Matched bar reports)
    (brings : roster.BringsNoId next)
    (lost : ∀ key workspace, next key = some workspace → workspace.IsLost bar →
      ∃ origin, roster key = some origin ∧ origin.IsLost bar ∧ origin.name = workspace.name) :
    next.Matched bar reports := by
  obtain ⟨partner, matchedBy⟩ := matched
  refine ⟨partner, fun key workspace present isLost => ?_, fun key workspace present isLost => ?_,
    fun first second one other found otherFound isLost otherLost same => ?_⟩
  · obtain ⟨origin, originPresent, wasLost, name⟩ := lost key workspace present isLost
    exact name ▸ matchedBy.accepted key origin originPresent wasLost
  · obtain ⟨origin, originPresent, wasLost, -⟩ := lost key workspace present isLost
    exact brings.lacks (matchedBy.missing key origin originPresent wasLost)
  · obtain ⟨_, originPresent, wasLost, -⟩ := lost first one found isLost
    obtain ⟨_, otherPresent, otherWasLost, -⟩ := lost second other otherFound otherLost
    exact matchedBy.apart first second _ _ originPresent otherPresent wasLost otherWasLost same

/-- A workspace may change as it likes if it gets no id, and is lost under its name if it was. -/
theorem Matched.update {changed : Option Workspace} (matched : roster.Matched bar reports)
    (present : roster key = some workspace)
    (own : ∀ after id, changed = some after → after.id = some id → workspace.id = some id)
    (lost : ∀ after, changed = some after → after.IsLost bar →
      workspace.IsLost bar ∧ workspace.name = after.name) :
    Matched bar reports (Function.update roster key changed) := by
  refine matched.of_bringsNoId (BringsNoId.update present own) fun other after found isLost => ?_
  rcases update_eq_some_iff.mp found with ⟨rfl, same⟩ | ⟨-, before⟩
  · exact ⟨workspace, present, lost after same isLost⟩
  · exact ⟨after, before, isLost, rfl⟩

/-- A workspace that is let go of has the id that it had for a partner. -/
theorem Matched.lose {after : Workspace} {id : Int} (matched : roster.Matched bar reports)
    (distinct : roster.Distinct) (present : roster key = some workspace)
    (reported : workspace.id = some id) (unreported : after.id = none)
    (accepted : bar.Accepts reports id after.name) :
    Matched bar reports (Function.update roster key (some after)) := by
  obtain ⟨partner, matchedBy⟩ := matched
  have gone : ∀ other otherId, some after = some other → other.id ≠ some otherId := by
    intro other otherId same own
    rw [← Option.some.inj same, unreported] at own
    cases own
  have brings : roster.BringsNoId (Function.update roster key (some after)) :=
    BringsNoId.update present fun other otherId same own => absurd own (gone other otherId same)
  have fresh : ∀ other found, roster other = some found → found.IsLost bar → partner other ≠ id :=
    fun other found otherPresent isLost same =>
      matchedBy.missing other found otherPresent isLost key workspace present (same ▸ reported)
  refine ⟨Function.update partner key id, fun other found otherPresent isLost => ?_,
    fun other found otherPresent isLost => ?_,
    fun first second one other found otherFound isLost otherLost same => ?_⟩
  · rcases update_eq_some_iff.mp otherPresent with ⟨rfl, same⟩ | ⟨different, before⟩
    · rw [Function.update_self, ← Option.some.inj same]
      exact accepted
    · rw [Function.update_of_ne different]
      exact matchedBy.accepted other found before isLost
  · rcases update_eq_some_iff.mp otherPresent with ⟨rfl, -⟩ | ⟨different, before⟩
    · rw [Function.update_self]
      exact distinct.lacks_update present reported fun other same => gone other id same
    · rw [Function.update_of_ne different]
      exact brings.lacks (matchedBy.missing other found before isLost)
  · rcases update_eq_some_iff.mp found with ⟨rfl, -⟩ | ⟨different, before⟩ <;>
      rcases update_eq_some_iff.mp otherFound with ⟨there, -⟩ | ⟨otherDifferent, otherBefore⟩
    · exact there.symm
    · rw [Function.update_self, Function.update_of_ne otherDifferent] at same
      exact absurd same.symm (fresh second other otherBefore otherLost)
    · rw [there, Function.update_self, Function.update_of_ne different] at same
      exact absurd same (fresh first one before isLost)
    · rw [Function.update_of_ne different, Function.update_of_ne otherDifferent] at same
      exact matchedBy.apart first second one other before otherBefore isLost otherLost same

/-- Workspaces that are lost under one name may swap their partners. -/
theorem MatchedBy.swap (matchedBy : roster.MatchedBy bar reports partner) {other : Nat}
    {otherWorkspace : Workspace} (present : roster key = some workspace)
    (otherPresent : roster other = some otherWorkspace) (lost : workspace.IsLost bar)
    (otherLost : otherWorkspace.IsLost bar) (named : workspace.name = otherWorkspace.name) :
    roster.MatchedBy bar reports (partner ∘ Equiv.swap key other) := by
  have swapped : ∀ third found, roster third = some found → found.IsLost bar →
      ∃ swap, roster (Equiv.swap key other third) = some swap ∧ swap.IsLost bar ∧
        swap.name = found.name := by
    intro third found thirdPresent isLost
    by_cases here : third = key
    · rw [here, present, Option.some.injEq] at thirdPresent
      rw [here, Equiv.swap_apply_left, ← thirdPresent]
      exact ⟨otherWorkspace, otherPresent, otherLost, named.symm⟩
    · by_cases there : third = other
      · rw [there, otherPresent, Option.some.injEq] at thirdPresent
        rw [there, Equiv.swap_apply_right, ← thirdPresent]
        exact ⟨workspace, present, lost, named⟩
      · rw [Equiv.swap_apply_of_ne_of_ne here there]
        exact ⟨found, thirdPresent, isLost, rfl⟩
  constructor
  · intro third found thirdPresent isLost
    obtain ⟨swap, swapPresent, swapLost, name⟩ := swapped third found thirdPresent isLost
    exact name ▸ matchedBy.accepted _ swap swapPresent swapLost
  · intro third found thirdPresent isLost
    obtain ⟨swap, swapPresent, swapLost, -⟩ := swapped third found thirdPresent isLost
    exact matchedBy.missing _ swap swapPresent swapLost
  · intro first second one two found twoFound isLost twoLost same
    obtain ⟨_, onePresent, oneLost, -⟩ := swapped first one found isLost
    obtain ⟨_, twoPresent, twoSwapLost, -⟩ := swapped second two twoFound twoLost
    exact (Equiv.swap key other).injective
      (matchedBy.apart _ _ _ _ onePresent twoPresent oneLost twoSwapLost same)

/-- A workspace may get an id that is no partner of another one. -/
theorem MatchedBy.adopt {after : Workspace} {id : Int}
    (matchedBy : roster.MatchedBy bar reports partner) (own : after.id = some id)
    (free : ∀ other found, other ≠ key → roster other = some found → found.IsLost bar →
      partner other ≠ id) :
    Matched bar reports (Function.update roster key (some after)) := by
  have elsewhere : ∀ other found, Function.update roster key (some after) other = some found →
      found.IsLost bar → other ≠ key ∧ roster other = some found := by
    intro other found otherPresent isLost
    refine (update_eq_some_iff.mp otherPresent).resolve_left fun here => ?_
    rw [← Option.some.inj here.2] at isLost
    exact Workspace.not_isLost_of_reported own isLost
  refine ⟨partner, fun other found otherPresent isLost => ?_,
    fun other found otherPresent isLost => ?_,
    fun first second one other found otherFound isLost otherLost same => ?_⟩
  · obtain ⟨-, before⟩ := elsewhere other found otherPresent isLost
    exact matchedBy.accepted other found before isLost
  · obtain ⟨different, before⟩ := elsewhere other found otherPresent isLost
    refine Every.update (matchedBy.missing other found before isLost) fun added same reported => ?_
    rw [← Option.some.inj same, own, Option.some.injEq] at reported
    exact free other found different before isLost reported.symm
  · obtain ⟨-, before⟩ := elsewhere first one found isLost
    obtain ⟨-, otherBefore⟩ := elsewhere second other otherFound otherLost
    exact matchedBy.apart first second one other before otherBefore isLost otherLost same

/-- When a report comes whose id is the partner of a lost workspace, the workspace that gets the id
is lost under the same name, and leaves its own partner to the other one. -/
theorem Matched.ensured {report : ReportedWorkspace} (matched : roster.Matched bar reports)
    (ensured : roster.Ensured bar report next)
    (named : ∀ other ∈ reports, other.id = report.id →
      shownName other.name = shownName report.name) : next.Matched bar reports := by
  obtain ⟨partner, matchedBy⟩ := matched
  have nameOf : ∀ other found, roster other = some found → found.IsLost bar →
      partner other = report.id → found.name = shownName report.name := by
    intro other found present isLost came
    obtain ⟨listed, member, -, same, name⟩ := matchedBy.accepted other found present isLost
    exact name.symm.trans (named listed member (same.trans came))
  cases ensured with
  | refused refused => exact ⟨partner, matchedBy⟩
  | adopted taken present own =>
    exact matchedBy.adopt rfl fun other found _ otherPresent isLost same =>
      matchedBy.missing other found otherPresent isLost _ _ present (same ▸ own)
  | @attached key workspace taken present unreported called missing =>
    by_cases wanted : ∃ other found, other ≠ key ∧ roster other = some found ∧
      found.IsLost bar ∧ partner other = report.id
    · obtain ⟨other, found, different, otherPresent, isLost, came⟩ := wanted
      have name := nameOf other found otherPresent isLost came
      have wasLost : workspace.IsLost bar := by
        refine ⟨unreported, ?_⟩
        rw [called, ← name]
        exact isLost.2
      have swapped := matchedBy.swap present otherPresent wasLost isLost (called.trans name.symm)
      have keyCame : (partner ∘ Equiv.swap key other) key = report.id := by
        rw [Function.comp_apply, Equiv.swap_apply_left, came]
      exact swapped.adopt rfl fun third thirdFound notKey thirdPresent thirdLost same =>
        notKey (swapped.apart third key thirdFound workspace thirdPresent present thirdLost wasLost
          (same.trans keyCame.symm))
    · refine matchedBy.adopt rfl fun other found different otherPresent isLost came => ?_
      exact wanted ⟨other, found, different, otherPresent, isLost, came⟩
  | created taken absent missing unnamed =>
    refine matchedBy.adopt rfl fun other found _ otherPresent isLost came => ?_
    exact unnamed other found otherPresent isLost.1 (nameOf other found otherPresent isLost came)

end Partners

end Roster

/-! ### Ticks -/

/-- An observation leaves the name of a workspace that is not reported. -/
theorem Workspace.name_observe_of_unreported (bar : Bar) (snapshot : Snapshot)
    {workspace : Workspace} (unreported : workspace.id = none) :
    (workspace.observe bar snapshot).name = workspace.name := by
  show (workspace.reported snapshot).name = workspace.name
  rw [reported, Snapshot.reportOf?, unreported]
  rfl

theorem Bar.declares_of_mem {bar : Bar} {raw : String} (member : raw ∈ bar.persistent) :
    bar.declares (shownName raw) = true :=
  List.any_eq_true.mpr ⟨raw, member, decide_eq_true rfl⟩

/-- A workspace that is reported and flagged as declared is declared, or has its name from a report
that the bar takes in. -/
def Workspace.IsGrounded (bar : Bar) (snapshot : Snapshot) (workspace : Workspace) : Prop :=
  ∀ id, workspace.id = some id → workspace.flags.persistentConfig = true →
    bar.declares workspace.name = true ∨ bar.Accepts snapshot.workspaces id workspace.name

theorem Workspace.isGrounded_of_unreported {bar : Bar} {snapshot : Snapshot} {workspace : Workspace}
    (unreported : workspace.id = none) : workspace.IsGrounded bar snapshot := by
  intro id reported
  cases unreported.symm.trans reported

theorem Workspace.isGrounded_of_flagged {bar : Bar} {snapshot : Snapshot} {workspace : Workspace}
    (flagged : workspace.flags.persistentConfig = bar.declares workspace.name) :
    workspace.IsGrounded bar snapshot :=
  fun _ _ kept => Or.inl (flagged.symm.trans kept)

theorem Roster.lasting_isGrounded (bar : Bar) (snapshot : Snapshot)
    (changes : List WorkspaceChange) :
    Roster.Lasting bar snapshot changes (Workspace.IsGrounded bar snapshot) where
  adopted report member taken workspace adopted id reported _ := by
    refine Or.inr ⟨report, member, taken, ?_, ?_⟩
    · exact Option.some.inj ((Workspace.id_of_adopted adopted).symm.trans reported)
    · rw [← adopted]
      rfl
  left _ _ _ same := Workspace.isGrounded_of_unreported (Workspace.id_of_left? same)
  renamed _ _ _ _ _ _ _ := Workspace.isGrounded_of_flagged rfl
  renamedAway _ _ _ _ _ _ _ _ same :=
    Workspace.isGrounded_of_unreported (Workspace.id_of_left? same)
  moved _ _ _ _ grounded _ _ := grounded
  movedAway _ _ _ _ _ _ _ _ same :=
    Workspace.isGrounded_of_unreported (Workspace.id_of_left? same)
  added _ _ _ _ := Workspace.isGrounded_of_unreported rfl

/-- No change moves a workspace to which windows refer as to one that another change destroys. -/
def WorkspaceChange.Apart (changes : List WorkspaceChange) : Prop :=
  ∀ id raw name monitor, .destroyed id raw ∈ changes → .moved name monitor ∈ changes →
    workspaceReference raw ≠ workspaceReference name

/-- The reports of a workspace that is moved are not among those that are left out. -/
theorem Bar.Accepts.inOrder {bar : Bar} {snapshot : Snapshot} {changes : List WorkspaceChange}
    {workspace : Workspace} {id : Int}
    (accepts : bar.Accepts snapshot.workspaces id workspace.name)
    (apart : WorkspaceChange.Apart changes) (referred : workspace.IsReferred)
    {raw monitor : String} (called : workspace.IsCalled raw)
    (member : .moved raw monitor ∈ changes) :
    bar.Accepts (snapshot.inOrder (changes.filterMap Model.destroyedName?)) id workspace.name := by
  obtain ⟨report, listed, taken, same, name⟩ := accepts
  refine ⟨report, Snapshot.mem_inOrder_iff.mpr ⟨listed, fun excluded => ?_⟩, taken, same, name⟩
  obtain ⟨change, destruction, gone⟩ := List.mem_filterMap.mp excluded
  cases change with
  | destroyed other destroyed =>
    refine apart other destroyed raw monitor destruction member ?_
    rw [← referred.of_isCalled called, ← name, ← Option.some.inj gone]
    rfl
  | _ => cases gone

namespace Roster

variable {bar : Bar} {snapshot : Snapshot} {changes : List WorkspaceChange} {roster next : Roster}

/-- Whatever is lost while changes are carried out has a partner among the reports to come. -/
structure Recovers (bar : Bar) (snapshot : Snapshot) (changes : List WorkspaceChange)
    (roster : Roster) : Prop where
  distinct : roster.Distinct
  referred : roster.Every Workspace.IsReferred
  grounded : roster.Every (Workspace.IsGrounded bar snapshot)
  matched : roster.Matched bar (snapshot.inOrder (changes.filterMap Model.destroyedName?))

/-- Where a workspace was let go of because it was moved away, the report that had given it a name
that is not declared is among those to come. -/
theorem Recovers.matched_movedAway (recovers : roster.Recovers bar snapshot changes)
    {raw monitor : String} {key : Nat} {workspace : Workspace}
    (present : roster key = some workspace) (called : workspace.IsCalled raw)
    (member : .moved raw monitor ∈ changes) (apart : WorkspaceChange.Apart changes) :
    Matched bar (snapshot.inOrder (changes.filterMap Model.destroyedName?))
      (Function.update roster key (workspace.withOutput monitor).left?) := by
  obtain ⟨distinct, referred, grounded, matched⟩ := recovers
  by_cases lets : workspace.flags.persistentConfig = true ∧ bar.declares workspace.name = false ∧
    workspace.id.isSome = true
  · obtain ⟨kept, undeclared, reported⟩ := lets
    obtain ⟨id, own⟩ := Option.isSome_iff_exists.mp reported
    have left : (workspace.withOutput monitor).left? =
        some (workspace.withOutput monitor).letGo := if_pos kept
    have accepted := (grounded key workspace present id own kept).resolve_left
      (by simp [undeclared])
    rw [left]
    exact matched.lose distinct present own rfl
      (accepted.inOrder apart (referred key workspace present) called member)
  · refine matched.update present (fun after id same reported => ?_) fun after same isLost => ?_
    · cases (Workspace.id_of_left? same).symm.trans reported
    · obtain ⟨kept, rfl⟩ := Workspace.left?_eq_some_iff.mp same
      refine ⟨⟨?_, isLost.2⟩, rfl⟩
      rw [← Option.not_isSome_iff_eq_none]
      exact fun reported => lets ⟨kept, isLost.2, reported⟩

/-- A change that is not a removal leaves partners for lost workspaces. -/
theorem Recovers.matched_changed {change : WorkspaceChange}
    (recovers : roster.Recovers bar snapshot changes)
    (changed : Changed bar snapshot change roster next) (member : change ∈ changes)
    (places : snapshot.PlacesIds) (apart : WorkspaceChange.Apart changes) :
    next.Matched bar (snapshot.inOrder (changes.filterMap Model.destroyedName?)) := by
  have matched := recovers.matched
  cases changed with
  | idle => exact matched
  | ensured announced ensured =>
    refine matched.ensured ensured fun other otherMember same => ?_
    rw [(places _ (Snapshot.mem_inOrder_iff.mp otherMember).1 _
      (Snapshot.mem_of_announced? announced) same).1]
  | renamed present own kept =>
    refine matched.update present (fun after id same reported => ?_) fun after same isLost => ?_
    · rwa [← Option.some.inj same] at reported
    · rw [← Option.some.inj same] at isLost
      exact absurd isLost (Workspace.not_isLost_of_reported own)
  | renamedAway present own refused =>
    refine matched.update present (fun after id same reported => ?_) fun after same isLost => ?_
    · cases (Workspace.id_of_left? same).symm.trans reported
    · obtain ⟨declares, rfl⟩ := Workspace.left?_eq_some_iff.mp same
      cases declares.symm.trans isLost.2
  | moved present called kept =>
    refine matched.update present (fun after id same reported => ?_) fun after same isLost => ?_
    · rwa [← Option.some.inj same] at reported
    · rw [← Option.some.inj same] at isLost ⊢
      exact ⟨isLost, rfl⟩
  | movedAway present called refused =>
    exact recovers.matched_movedAway present called member apart

theorem Recovers.changed {change : WorkspaceChange}
    (recovers : roster.Recovers bar snapshot changes)
    (changed : Changed bar snapshot change roster next) (member : change ∈ changes)
    (places : snapshot.PlacesIds) (apart : WorkspaceChange.Apart changes) :
    next.Recovers bar snapshot changes where
  distinct := recovers.distinct.changed changed
  referred := (lasting_isReferred bar snapshot changes).every_changed member changed
    recovers.referred
  grounded := (lasting_isGrounded bar snapshot changes).every_changed member changed
    recovers.grounded
  matched := recovers.matched_changed changed member places apart

/-- Only declared workspaces are let go of because their reports are gone. -/
theorem Matched.prune {reports : List ReportedWorkspace} (matched : roster.Matched bar reports)
    (places : snapshot.PlacesIds) (grounded : roster.Every (Workspace.IsGrounded bar snapshot)) :
    (roster.prune bar snapshot).Matched bar reports := by
  refine matched.of_bringsNoId (bringsNoId_prune bar snapshot roster) ?_
  intro key workspace present isLost
  obtain ⟨origin, originPresent, ⟨stale, left⟩ | ⟨-, rfl⟩⟩ := exists_of_prune present
  · obtain ⟨kept, rfl⟩ := Workspace.left?_eq_some_iff.mp left
    exfalso
    cases own : origin.id with
    | none =>
      rw [Model.isStale, own] at stale
      cases stale
    | some id =>
      rcases grounded key origin originPresent id own kept with
        declares | ⟨report, member, taken, rfl, -⟩
      · cases declares.symm.trans isLost.2
      · cases stale.symm.trans (places.isStale member taken own)
  · exact ⟨origin, originPresent, isLost, rfl⟩

/-- After a report that the bar takes in its id is on a workspace. -/
theorem Ensured.not_lacks {report : ReportedWorkspace} (ensured : roster.Ensured bar report next)
    (taken : bar.takesReport report = true) : ¬next.Lacks report.id := by
  intro missing
  cases ensured with
  | refused refused => cases taken.symm.trans refused
  | adopted _ present own => exact missing _ _ (Function.update_self ..) rfl
  | attached _ present unreported named absent => exact missing _ _ (Function.update_self ..) rfl
  | created _ absent _ unnamed => exact missing _ _ (Function.update_self ..) rfl

/-- A report that has come is no longer needed. -/
theorem Matched.tail {report : ReportedWorkspace} {reports : List ReportedWorkspace}
    (matched : next.Matched bar (report :: reports))
    (ensured : roster.Ensured bar report next) : next.Matched bar reports := by
  obtain ⟨partner, matchedBy⟩ := matched
  refine ⟨partner, fun key workspace present isLost => ?_, matchedBy.missing, matchedBy.apart⟩
  obtain ⟨listed, member, taken, same, name⟩ := matchedBy.accepted key workspace present isLost
  rcases List.mem_cons.mp member with rfl | later
  · exact absurd (same ▸ matchedBy.missing key workspace present isLost) (ensured.not_lacks taken)
  · exact ⟨listed, later, taken, same, name⟩

/-- When all reports have come no workspace is lost. -/
theorem Matched.noneLost_of_chained {reports : List ReportedWorkspace}
    (matched : roster.Matched bar reports) (chained : Chained (Ensured bar) reports roster next)
    (named : ∀ first ∈ reports, ∀ second ∈ reports, first.id = second.id →
      shownName first.name = shownName second.name) :
    next.Every fun workspace => ¬workspace.IsLost bar := by
  induction chained with
  | nil state => exact matched.noneLost
  | cons head tail inductionHypothesis =>
    have adopted := matched.ensured head fun other member =>
      named other member _ List.mem_cons_self
    exact inductionHypothesis (adopted.tail head) fun first firstMember second secondMember =>
      named first (List.mem_cons_of_mem _ firstMember) second
        (List.mem_cons_of_mem _ secondMember)

/-- What comes after the reports adds declared workspaces only, and leaves what is not reported as
it is. -/
theorem Settles.noneLost {excluded : List String} {after : Roster}
    (settles : roster.Settles bar snapshot excluded after)
    (aligned : ∀ aligned : Roster, Chained (Ensured bar) (snapshot.inOrder excluded)
      (roster.prune bar snapshot) aligned →
      aligned.Every fun workspace => ¬workspace.IsLost bar) :
    after.Every fun workspace => ¬workspace.IsLost bar := by
  cases settles with
  | @intro reported declared ensured added =>
    have none : declared.Every fun workspace => ¬workspace.IsLost bar := by
      refine added.keeps (fun raw member before after step every => ?_) (aligned reported ensured)
      cases step with
      | idle => exact every
      | added absent unnamed taken =>
        refine every.update fun added same isLost => ?_
        rw [← Option.some.inj same] at isLost
        cases (Bar.declares_of_mem member).symm.trans isLost.2
    intro key workspace present isLost
    obtain ⟨origin, originPresent, rfl⟩ := Option.map_eq_some_iff.mp present
    have unreported := (Workspace.id_observe bar snapshot origin).symm.trans isLost.1
    refine none key origin originPresent ⟨unreported, ?_⟩
    rw [← Workspace.name_observe_of_unreported bar snapshot unreported]
    exact isLost.2

end Roster

/-! ### Runs -/

/-- A workspace is flagged as declared when it is, and not lost. -/
structure Workspace.IsAccounted (bar : Bar) (workspace : Workspace) : Prop where
  flagged : workspace.flags.persistentConfig = bar.declares workspace.name
  notLost : ¬workspace.IsLost bar

/-- A destruction lets go of declared workspaces only. -/
theorem Roster.Cleared.every_isAccounted {bar : Bar} {change : WorkspaceChange}
    {roster next : Roster} (cleared : Roster.Cleared change roster next)
    (every : roster.Every (Workspace.IsAccounted bar)) :
    next.Every (Workspace.IsAccounted bar) := by
  cases cleared with
  | idle missing => exact every
  | left present meant =>
    refine every.update fun left same => ?_
    obtain ⟨kept, rfl⟩ := Workspace.left?_eq_some_iff.mp same
    have flagged := (every _ _ present).flagged
    exact ⟨flagged, fun isLost => by cases (flagged.symm.trans kept).symm.trans isLost.2⟩

namespace Tracker

/-- Whether a tick that carries out changes has reports that agree on the workspace under an id, and
does not both move and destroy what windows refer to in one way. -/
def IsOrderly (tracker : Tracker) (snapshot : Snapshot) : Prop :=
  tracker.startsOver = false →
    snapshot.PlacesIds ∧ WorkspaceChange.Apart tracker.backlog.workspaces

theorem noneLost_nextModel {tracker : Tracker} (identified : tracker.model.Identified)
    (referred : tracker.model.roster.Every Workspace.IsReferred)
    (accounted : tracker.model.roster.Every (Workspace.IsAccounted tracker.bar))
    {snapshot : Snapshot} (orderly : tracker.IsOrderly snapshot) :
    (tracker.nextModel snapshot).roster.Every fun workspace => ¬workspace.IsLost tracker.bar := by
  cases Model.ticks_nextModel identified snapshot with
  | fresh _ settles =>
    refine settles.noneLost fun aligned ensured => ensured.keeps ?_ ?_
    · exact fun report _ before after step every => every.ensured step fun workspace _ adopted =>
        Workspace.not_isLost_of_reported (Workspace.id_of_adopted adopted)
    · exact fun key workspace present => by cases present
  | @caughtUp cleared changed _ carriesOn clearing changing settles =>
    obtain ⟨places, apart⟩ := orderly carriesOn
    have accountedFor := clearing.keeps (fun _ _ _ _ step => step.every_isAccounted) accounted
    have recovers : cleared.Recovers tracker.bar snapshot tracker.backlog.workspaces :=
      { distinct := clearing.keeps (fun _ _ _ _ step => step.bringsNoId.distinct)
          identified.distinct_roster
        referred := clearing.keeps (fun _ _ _ _ =>
          (Roster.lasting_isReferred tracker.bar snapshot []).every_cleared) referred
        grounded := fun key workspace present =>
          Workspace.isGrounded_of_flagged (accountedFor key workspace present).flagged
        matched := Roster.matched_of_noneLost fun key workspace present =>
          (accountedFor key workspace present).notLost }
    have recovered := changing.keeps (motive := fun next => Roster.Recovers _ _ _ next)
      (fun change member _ _ step recovers => recovers.changed step member places apart) recovers
    refine settles.noneLost fun aligned ensured => ?_
    refine (recovered.matched.prune places recovered.grounded).noneLost_of_chained ensured ?_
    intro first firstMember second secondMember same
    rw [(places first (Snapshot.mem_inOrder_iff.mp firstMember).1 second
      (Snapshot.mem_inOrder_iff.mp secondMember).1 same).1]

/-- At the end of every run of orderly ticks no workspace is lost. -/
theorem isAccounted_run [Pattern.Engine] {config : BarConfig} {inputs : List Input}
    (orderly : EveryTick IsOrderly (ofConfig config) inputs) :
    (run config inputs).model.roster.Every (Workspace.IsAccounted (Bar.ofConfig config)) := by
  refine orderly.run_induction (motive := fun tracker =>
    tracker.model.roster.Every (Workspace.IsAccounted (Bar.ofConfig config))) ?_ ?_ ?_
  · exact fun key workspace present => by cases present
  · exact fun tracker event accounted => accounted
  · intro before snapshot accounted every
    have identified := Model.identified_run config before
    rw [← bar_run config before] at accounted ⊢
    have noneLost := noneLost_nextModel identified (isReferred_run config before) accounted
      every.last
    intro key workspace present
    exact ⟨(Model.ticks_nextModel identified snapshot).flagged key workspace present,
      noneLost key workspace present⟩

/-- After every run of orderly ticks a tick that is orderly leaves only workspaces of which the bar
takes in a report, and declared ones that are not reported. -/
theorem accounted_tick [Pattern.Engine] (config : BarConfig) (inputs : List Input)
    {snapshot : Snapshot}
    (orderly : EveryTick IsOrderly (ofConfig config) (inputs ++ [.snapshot snapshot])) :
    ∀ key workspace,
      ((run config inputs).tick snapshot).model.workspaces.get? key = some workspace →
      (∃ report ∈ snapshot.workspaces, (Bar.ofConfig config).takesReport report = true ∧
        workspace.id = some report.id) ∨
      workspace.id = none ∧ (Bar.ofConfig config).declares workspace.name = true := by
  have accounted := isAccounted_run orderly
  rw [run_append] at accounted
  intro key workspace present
  have there := Model.roster_of_get? present
  cases own : workspace.id with
  | none =>
    refine Or.inr ⟨rfl, ?_⟩
    have notLost := (accounted key _ there).notLost
    rw [← Bool.not_eq_false]
    exact fun undeclared => notLost ⟨own, undeclared⟩
  | some id =>
    have reported := (Model.ticks_nextModel (Model.identified_run config inputs) snapshot).reported
    rw [bar_run] at reported
    obtain ⟨report, member, taken, rfl⟩ := reported key _ there id own
    exact Or.inl ⟨report, member, taken, rfl⟩

/-- The bar of one output, for which a workspace is declared. -/
def boundConfig : BarConfig :=
  { output := some "DP-1", declarations := [.named "web" []] }

/-- A report of one workspace under a name on an output. -/
def snapshotOf (name monitor : String) : Snapshot :=
  { workspaces := [{ id := 1, name := name, monitor := monitor }] }

/-- A declared workspace has got another name, is moved and comes back, and another one is
destroyed. -/
def returningRun (destroyed : String) : List Input :=
  [.snapshot (snapshotOf "web" "DP-1"), .event (.workspace (.destroyed (some 7) destroyed)),
    .event (.workspace (.created (some 1) "x")), .event (.workspace (.moved "x" "HDMI-A-1")),
    .snapshot (snapshotOf "x" "DP-1")]

theorem apart_returningRun : WorkspaceChange.Apart
    [.destroyed (some 7) "y", .created (some 1) "x", .moved "x" "HDMI-A-1"] := by
  intro id raw name monitor destroyed moved
  simp only [List.mem_cons, WorkspaceChange.destroyed.injEq, reduceCtorEq, List.not_mem_nil,
    or_false] at destroyed
  simp only [List.mem_cons, WorkspaceChange.moved.injEq, reduceCtorEq, List.not_mem_nil,
    or_false, false_or] at moved
  rw [destroyed.2, moved.1]
  decide

theorem accounted_tick_returningRun :
    EveryTick IsOrderly (ofConfig boundConfig)
        (returningRun "y" ++ [.snapshot (snapshotOf "x" "HDMI-A-1")]) ∧
      ∀ key workspace,
        ((run boundConfig (returningRun "y")).tick
          (snapshotOf "x" "HDMI-A-1")).model.workspaces.get? key = some workspace →
        (∃ report ∈ (snapshotOf "x" "HDMI-A-1").workspaces,
          (Bar.ofConfig boundConfig).takesReport report = true ∧
            workspace.id = some report.id) ∨
        workspace.id = none ∧ (Bar.ofConfig boundConfig).declares workspace.name = true := by
  have places : ∀ name monitor, (snapshotOf name monitor).PlacesIds := fun _ _ =>
    Snapshot.placesIds_of_distinct (List.nodup_singleton _)
  have orderly : EveryTick IsOrderly (ofConfig boundConfig)
      (returningRun "y" ++ [.snapshot (snapshotOf "x" "HDMI-A-1")]) := by
    refine ⟨fun _ => ⟨places _ _, ?_⟩, fun _ => ⟨places _ _, apart_returningRun⟩,
      fun _ => ⟨places _ _, ?_⟩, trivial⟩
    · exact fun _ _ _ _ destroyed => absurd destroyed List.not_mem_nil
    · exact fun _ _ _ _ destroyed => absurd destroyed List.not_mem_nil
  exact ⟨orderly, accounted_tick boundConfig (returningRun "y") orderly⟩

/-- Three reports of one workspace, which do not agree on its name and output. -/
def disagreeingSnapshot : Snapshot :=
  { workspaces := [{ id := 1, name := "y", monitor := "HDMI-A-1" },
      { id := 1, name := "y", monitor := "DP-1" }, { id := 1, name := "x", monitor := "DP-1" }] }

/-- A workspace that is neither reported nor declared is left over, and stays, when a workspace is
moved under the name that another one is destroyed under. One is left over as well when reports
under one id do not agree. -/
theorem not_accounted_returningRun :
    ((run boundConfig (returningRun "x")).tick
        (snapshotOf "x" "HDMI-A-1")).model.workspaces.values.map
          (fun workspace => (workspace.id, workspace.name)) = [(none, "x"), (none, "web")] ∧
      ((run boundConfig [.snapshot (snapshotOf "web" "DP-1"),
        .event (.workspace (.activated "x"))]).tick
          disagreeingSnapshot).model.workspaces.values.map
            (fun workspace => (workspace.id, workspace.name)) =
        [(none, "x"), (some 1, "y"), (none, "web")] ∧
      (Bar.ofConfig boundConfig).declares "x" = false := by
  decide

end Tracker

end Deskbar
