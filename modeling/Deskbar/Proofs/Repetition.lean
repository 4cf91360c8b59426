/-
This file shows that a tick against the snapshot of the tick before finds nothing to do. One tick
removes what is stale, adopts every report, gives every window that waits for a reported workspace
to it and adds what is declared. None of this makes work for another part that has been done, so
the next tick only lets the windows that still wait grow older.

Windows that wait only become fewer while reports are adopted. Therefore a workspace that has
claimed its windows has none left to claim when its report comes again.
-/

import Deskbar.Proofs.Agreement
import Deskbar.Proofs.Folds
import Deskbar.Proofs.Waiting

namespace Deskbar

namespace Model

/-! ### Claims -/

theorem get?_claimEach_of_mem (bar : Bar) (key : Nat) {addresses : List String} {address : String}
    (member : address ∈ addresses) (model : Model) :
    (model.claimEach bar key addresses).orphans.get? address = none := by
  refine foldl_of_mem (fun _ => True) (fun next : Model => next.orphans.get? address = none) member
    ?_ ?_ ?_ trivial
  · exact fun _ _ _ _ => trivial
  · intro next _
    rw [claimOne]
    split
    · next absent => exact absent
    · next window _ =>
      exact (Sheds.place bar key window
        { next with
          orphans := next.orphans.erase address
          owners := next.owners.erase address }).dwindles.get?_eq_none
        (SortedMap.get?_erase_self ..)
  · exact fun next _ absent other _ _ =>
      (Sheds.claimOne bar key next other).dwindles.get?_eq_none absent

/-- No window waits for a workspace that has claimed those that did. -/
theorem not_waiting_of_claim {model : Model} {key : Nat} {workspace : Workspace} (bar : Bar)
    (present : model.workspaces.get? key = some workspace) {address : String} {window : Window}
    (waits : (model.claim bar key).orphans.get? address = some window) :
    window.workspace ≠ workspace.reference := by
  intro same
  obtain ⟨old, oldWaits, oldSame⟩ := (Sheds.claim bar key model).dwindles.waited waits
  have member : address ∈ model.waitingFor workspace.reference := by
    refine List.mem_map.mpr ⟨(address, old), List.mem_filter.mpr ⟨?_, ?_⟩, rfl⟩
    · exact SortedMap.get?_eq_some_iff.mp oldWaits
    · exact decide_eq_true (oldSame.trans same)
  simp only [claim, present] at waits
  rw [get?_claimEach_of_mem bar key member] at waits
  cases waits

/-- No window waits for a workspace whose report has come. -/
theorem not_waiting_of_ensure {model : Model} (identified : model.Identified) {bar : Bar}
    (snapshot : Snapshot) {report : ReportedWorkspace} (taken : bar.takesReport report = true)
    {address : String} {window : Window}
    (waits : (model.ensure bar snapshot report).orphans.get? address = some window) :
    window.workspace ≠ workspaceReference report.name := by
  cases found : model.forReport? report with
  | some workspace =>
    have adopted := get?_update_self (identified.forReport? found).1 fun workspace =>
      workspace.adopt report
    rw [ensure_of_found taken snapshot found] at waits
    dsimp only at waits
    split at waits
    · exact not_waiting_of_claim bar adopted waits
    · obtain ⟨gathered, present, same⟩ := get?_of_outline (outline_gather ..).symm adopted
      have referred : gathered.reference = workspaceReference report.name :=
        Workspace.reference_of_outline same
      rw [← referred]
      exact not_waiting_of_claim bar present waits
  | none =>
    rw [ensure_of_missing taken snapshot found] at waits
    obtain ⟨created, createdPresent, adopted⟩ := exists_adopted_of_create bar report model
    obtain ⟨gathered, present, same⟩ := get?_of_outline (outline_gather ..).symm createdPresent
    rw [← Workspace.reference_of_adopted adopted, ← Workspace.reference_of_outline same]
    exact not_waiting_of_claim bar present waits

/-! ### What a tick has settled -/

/-- No window waits for a workspace whose report the bar takes in. -/
def Claimed (bar : Bar) (snapshot : Snapshot) (orphans : SortedMap String Window) : Prop :=
  ∀ report ∈ snapshot.workspaces, bar.takesReport report = true →
    ∀ address window, orphans.get? address = some window →
      window.workspace ≠ workspaceReference report.name

/-- A declared workspace is there, or is one that the bar does not take in. -/
def HasDeclared (bar : Bar) (model : Model) (raw : String) : Prop :=
  (model.named? raw).isSome = true ∨ bar.takes (shownName raw) (bar.config.output.getD "")
    (WorkspaceName.parse raw).special = false

/-- A tick against a snapshot finds nothing to do for workspaces. -/
structure Settled (bar : Bar) (snapshot : Snapshot) (model : Model) : Prop where
  identified : model.Identified
  agrees : model.Agrees bar snapshot
  claimed : Claimed bar snapshot model.orphans
  declared : ∀ raw ∈ bar.persistent, model.HasDeclared bar raw

theorem Claimed.of_dwindles {bar : Bar} {snapshot : Snapshot}
    {before after : SortedMap String Window} (claimed : Claimed bar snapshot before)
    (fewer : Dwindles before after) : Claimed bar snapshot after := by
  intro report member taken address window waits same
  obtain ⟨old, oldWaits, oldSame⟩ := fewer.waited waits
  exact claimed report member taken address old oldWaits (oldSame.trans same)

/-- No window waits for any of the workspaces whose reports have come. -/
theorem not_waiting_of_foldl_ensure {bar : Bar} {snapshot : Snapshot}
    {reports : List ReportedWorkspace} {report : ReportedWorkspace} (member : report ∈ reports)
    (taken : bar.takesReport report = true) {model : Model} (identified : model.Identified)
    {address : String} {window : Window}
    (waits : (reports.foldl (fun model report => model.ensure bar snapshot report)
      model).orphans.get? address = some window) :
    window.workspace ≠ workspaceReference report.name := by
  refine foldl_of_mem Identified (fun next : Model => ∀ address window,
      next.orphans.get? address = some window →
        window.workspace ≠ workspaceReference report.name)
    member ?_ ?_ ?_ identified address window waits
  · exact fun next kept other _ => kept.ensure bar snapshot other
  · exact fun next kept address window => not_waiting_of_ensure kept snapshot taken
  · intro next _ none other _ _ address window stillWaits
    exact none address window ((Sheds.ensure bar snapshot other next).kept stillWaits)

theorem claimed_align {model : Model} (identified : model.Identified) (bar : Bar)
    (snapshot : Snapshot) : Claimed bar snapshot (model.align bar snapshot []).orphans := by
  intro report member taken address window waits
  refine not_waiting_of_foldl_ensure ?_ taken (identified.removeStale bar snapshot) waits
  refine List.mem_filter.mpr ⟨?_, rfl⟩
  exact (sortBy_perm (compareOn ReportedWorkspace.id) snapshot.workspaces).mem_iff.mpr member

theorem isSome_first?_iff {model : Model} {test : Workspace → Bool} :
    (model.first? test).isSome = true ↔
      ∃ key workspace, model.workspaces.get? key = some workspace ∧ test workspace = true := by
  rw [first?, List.find?_isSome]
  constructor
  · rintro ⟨workspace, member, passed⟩
    obtain ⟨key, present⟩ := SortedMap.mem_values_iff.mp member
    exact ⟨key, workspace, present, passed⟩
  · rintro ⟨key, workspace, present, passed⟩
    exact ⟨workspace, SortedMap.mem_values_iff.mpr ⟨key, present⟩, passed⟩

theorem isSome_named?_iff {model : Model} {name : String} :
    (model.named? name).isSome = true ↔
      ∃ key workspace, model.workspaces.get? key = some workspace ∧
        (workspace.name = shownName name ∨ workspace.reference = workspaceReference name) := by
  rw [named?, Option.isSome_or, Bool.or_eq_true, isSome_first?_iff, isSome_first?_iff]
  simp only [decide_eq_true_eq, and_or_left, exists_or]

/-- A name still means a workspace when every workspace has kept its name and its reference. -/
theorem HasDeclared.of_names {bar : Bar} {model next : Model} {raw : String}
    (declared : model.HasDeclared bar raw)
    (kept : ∀ key workspace, model.workspaces.get? key = some workspace →
      ∃ after, next.workspaces.get? key = some after ∧ after.name = workspace.name ∧
        after.reference = workspace.reference) : next.HasDeclared bar raw := by
  refine declared.imp_left fun found => ?_
  obtain ⟨key, workspace, present, named⟩ := isSome_named?_iff.mp found
  obtain ⟨after, afterPresent, name, reference⟩ := kept key workspace present
  rw [← name, ← reference] at named
  exact isSome_named?_iff.mpr ⟨key, after, afterPresent, named⟩

theorem HasDeclared.addDeclared {bar : Bar} {model : Model} (identified : model.Identified)
    {raw : String} (declared : model.HasDeclared bar raw) (other : String) :
    (model.addDeclared bar other).HasDeclared bar raw := by
  refine declared.of_names fun key workspace present => ⟨workspace, ?_, rfl, rfl⟩
  rw [Model.addDeclared]
  dsimp only
  split
  · exact identified.get?_insert_next present _
  · exact present

theorem hasDeclared_addDeclared (bar : Bar) (model : Model) (raw : String) :
    (model.addDeclared bar raw).HasDeclared bar raw := by
  rw [addDeclared]
  dsimp only
  split
  · exact Or.inl (isSome_named?_iff.mpr
      ⟨model.lastKey + 1, _, SortedMap.get?_insert_self .., Or.inl rfl⟩)
  · next there =>
    rw [Bool.and_eq_true, not_and_or, Option.isNone_iff_eq_none, ← ne_eq, Bool.not_eq_true] at there
    exact there.imp_left Option.isSome_iff_ne_none.mpr

theorem hasDeclared_addAllDeclared {bar : Bar} {model : Model} (identified : model.Identified)
    {raw : String} (member : raw ∈ bar.persistent) :
    (model.addAllDeclared bar).HasDeclared bar raw :=
  foldl_of_mem Identified (HasDeclared bar · raw) member
    (fun _ kept other _ => kept.addDeclared bar other)
    (fun next _ => hasDeclared_addDeclared bar next raw)
    (fun _ kept declared other _ _ => declared.addDeclared kept other) identified

theorem orphans_addAllDeclared (bar : Bar) (model : Model) :
    (model.addAllDeclared bar).orphans = model.orphans := by
  refine foldl_view orphans (fun next raw => ?_) bar.persistent model
  rw [addDeclared]
  dsimp only
  split <;> rfl

/-- Alignment and the declarations leave nothing to do. -/
theorem settled_align {model : Model} (identified : model.Identified) (bar : Bar)
    {snapshot : Snapshot} (distinct : (snapshot.workspaces.map ReportedWorkspace.id).Nodup) :
    ((model.align bar snapshot []).addAllDeclared bar).Settled bar snapshot := by
  have aligned := identified.align bar snapshot []
  constructor
  · exact aligned.addAllDeclared bar
  · exact (agrees_align identified bar distinct).addAllDeclared aligned
  · rw [orphans_addAllDeclared]
    exact claimed_align identified bar snapshot
  · exact fun raw member => hasDeclared_addAllDeclared aligned member

namespace Settled

variable {model : Model} {bar : Bar} {snapshot : Snapshot}

theorem growOrphans (settled : model.Settled bar snapshot) (addresses : List String) :
    (model.growOrphans bar addresses).Settled bar snapshot := by
  have same := outline_growOrphans bar addresses model
  constructor
  · exact settled.identified.of_outline same
  · exact settled.agrees.of_outline same
  · exact settled.claimed.of_dwindles (Dwindles.growOrphans bar addresses model)
  · intro raw member
    refine (settled.declared raw member).of_names fun key workspace present => ?_
    rw [workspaces_growOrphans]
    exact ⟨workspace, present, rfl, rfl⟩

theorem observe (settled : model.Settled bar snapshot)
    (distinct : (snapshot.workspaces.map ReportedWorkspace.id).Nodup) :
    (model.observe bar snapshot).Settled bar snapshot := by
  constructor
  · exact settled.identified.observe bar snapshot
  · exact settled.agrees.observe distinct
  · exact settled.claimed.of_dwindles (Dwindles.observe bar snapshot model)
  · intro raw member
    refine (settled.declared raw member).of_names fun key workspace present => ?_
    have unchanged := settled.agrees.reported_eq_self distinct present
    refine ⟨_, (get?_observe bar snapshot model key).trans (congrArg _ present), ?_, ?_⟩
    · exact (congrArg Workspace.name unchanged :)
    · exact (congrArg Workspace.reference unchanged :)

theorem removeStale_eq_self (settled : model.Settled bar snapshot)
    (distinct : (snapshot.workspaces.map ReportedWorkspace.id).Nodup) :
    model.removeStale bar snapshot = model := by
  have none : model.workspaces.values.filter (isStale bar snapshot) = [] := by
    refine List.filter_eq_nil_iff.mpr fun workspace member => ?_
    obtain ⟨key, present⟩ := SortedMap.mem_values_iff.mp member
    rw [Bool.not_eq_true]
    cases reported : workspace.id with
    | none => rw [isStale, reported]
    | some id =>
      obtain ⟨report, listed, taken, rfl, -⟩ := settled.agrees.faithful present reported
      exact isStale_eq_false distinct listed taken reported
  rw [removeStale, none]
  rfl

theorem ensure_eq_self (settled : model.Settled bar snapshot) {report : ReportedWorkspace}
    (member : report ∈ snapshot.workspaces) : model.ensure bar snapshot report = model := by
  cases taken : bar.takesReport report with
  | false => exact ensure_of_refused taken snapshot model
  | true =>
    obtain ⟨key, workspace, present, adopted⟩ := settled.agrees.complete report member taken
    have reported := Workspace.id_of_adopted adopted
    have found : model.forReport? report = some workspace := by
      rw [forReport?, settled.identified.withId?_eq_some present reported]
      rfl
    have keyed := settled.identified.keyed present
    have unchanged : (model.update workspace.key fun workspace => workspace.adopt report) =
        model := by
      have fixed : model.workspaces.modify workspace.key (fun workspace =>
          workspace.adopt report) = model.workspaces := by
        refine SortedMap.modify_eq_self fun other otherPresent => ?_
        rw [keyed, present] at otherPresent
        rw [← Option.some.inj otherPresent, adopted]
      rw [update, fixed]
    have unclaimed : model.waitingFor workspace.reference = [] := by
      rw [waitingFor, List.map_eq_nil_iff, List.filter_eq_nil_iff]
      intro entry waits
      rw [decide_eq_true_eq, Workspace.reference_of_adopted adopted]
      exact settled.claimed report member taken entry.1 entry.2
        (SortedMap.get?_eq_some_iff.mpr waits)
    have reportedIsSome : workspace.id.isSome = true := by rw [reported]; rfl
    rw [ensure_of_found taken snapshot found, unchanged]
    dsimp only
    rw [if_pos reportedIsSome, claim, keyed, present]
    dsimp only
    rw [unclaimed]
    rfl

theorem align_eq_self (settled : model.Settled bar snapshot)
    (distinct : (snapshot.workspaces.map ReportedWorkspace.id).Nodup) (excluded : List String) :
    model.align bar snapshot excluded = model := by
  rw [align, settled.removeStale_eq_self distinct]
  refine foldl_eq_self fun report member => settled.ensure_eq_self ?_
  have sorted := (List.mem_filter.mp member).1
  exact (sortBy_perm (compareOn ReportedWorkspace.id) snapshot.workspaces).mem_iff.mp sorted

theorem addAllDeclared_eq_self (settled : model.Settled bar snapshot) :
    model.addAllDeclared bar = model := by
  refine foldl_eq_self fun raw member => ?_
  rw [addDeclared]
  refine if_neg fun missing => ?_
  rw [Bool.and_eq_true] at missing
  rcases settled.declared raw member with there | refused
  · rw [← Option.not_isSome, there] at missing
    cases missing.1
  · cases missing.2.symm.trans refused

end Settled

end Model

/-! ### What a tick has observed -/

namespace Workspace

theorem observe_focusOn (bar : Bar) (snapshot : Snapshot) (workspace : Workspace)
    (address : Option String) :
    (workspace.focusOn address).observe bar snapshot =
      (workspace.observe bar snapshot).focusOn address := by
  have same : snapshot.reportOf? (workspace.focusOn address) = snapshot.reportOf? workspace := rfl
  have told : (workspace.focusOn address).reported snapshot =
      (workspace.reported snapshot).focusOn address := by
    rw [reported, reported, same]
    cases snapshot.reportOf? workspace <;> rfl
  rw [observe, observe, told]
  rfl

theorem reported_observe (bar : Bar) (snapshot : Snapshot) (workspace : Workspace) :
    (workspace.observe bar snapshot).reported snapshot = workspace.observe bar snapshot := by
  have same : snapshot.reportOf? (workspace.observe bar snapshot) =
      snapshot.reportOf? workspace := by
    rw [Snapshot.reportOf?, id_observe, Snapshot.reportOf?]
  rw [reported, same]
  split
  · next report found => exact adopt_observe bar found
  · rfl

/-- An observation of a workspace that has its report already. -/
def flagged (bar : Bar) (snapshot : Snapshot) (workspace : Workspace) : Workspace :=
  { workspace with
    flags :=
      { workspace.flags with
        active := snapshot.showsActive workspace
        persistentRule := snapshot.keepsByRule workspace
        persistentConfig := bar.declares workspace.name
        urgent := workspace.flags.urgent && !snapshot.showsActive workspace
        visible := snapshot.showsVisible workspace } }

theorem observe_eq (bar : Bar) (snapshot : Snapshot) (workspace : Workspace) :
    workspace.observe bar snapshot = (workspace.reported snapshot).flagged bar snapshot := rfl

theorem flagged_flagged (bar : Bar) (snapshot : Snapshot) (workspace : Workspace) :
    (workspace.flagged bar snapshot).flagged bar snapshot = workspace.flagged bar snapshot := by
  have urgent : (workspace.flags.urgent && !snapshot.showsActive workspace &&
      !snapshot.showsActive workspace) =
        (workspace.flags.urgent && !snapshot.showsActive workspace) := by
    rw [Bool.and_assoc, Bool.and_self]
  exact congrArg (fun urgent =>
    { workspace.flagged bar snapshot with
      flags := { (workspace.flagged bar snapshot).flags with urgent := urgent } }) urgent

/-- A second observation finds what the first one has found. -/
theorem observe_observe (bar : Bar) (snapshot : Snapshot) (workspace : Workspace) :
    (workspace.observe bar snapshot).observe bar snapshot = workspace.observe bar snapshot := by
  rw [observe_eq bar snapshot (workspace.observe bar snapshot), reported_observe, observe_eq,
    flagged_flagged]

end Workspace

namespace Model

theorem focused_shareFocus (model : Model) : model.shareFocus.focused = model.focused := by
  refine foldl_view focused (fun _ _ => ?_) model.orphans.keys model.focusWorkspaces
  rfl

/-- The windows that wait know whether they have the focus once everyone has been told. -/
theorem active_shareFocus {model : Model} {address : String} {window : Window}
    (waits : model.shareFocus.orphans.get? address = some window) :
    window.active = model.hasFocusOn address := by
  have member : address ∈ model.orphans.keys := by
    obtain ⟨old, oldWaits, -⟩ := (Dwindles.shareFocus model).waited waits
    exact SortedMap.mem_keys_iff.mpr ⟨old, oldWaits⟩
  refine foldl_of_mem (fun next : Model => next.focused = model.focused)
    (fun next : Model => ∀ window, next.orphans.get? address = some window →
      window.active = model.hasFocusOn address)
    member ?_ ?_ ?_ ?_ window waits
  · exact fun next same other _ => same
  · intro next same told found
    dsimp only [focusOrphan] at found
    rw [SortedMap.get?_modify_self] at found
    obtain ⟨old, -, rfl⟩ := Option.map_eq_some_iff.mp found
    rw [Window.withFocus, hasFocusOn, same, hasFocusOn]
  · intro next _ known other _ different told found
    dsimp only [focusOrphan] at found
    rw [SortedMap.get?_modify_of_ne _ _ different.symm] at found
    exact known told found
  · rfl

/-- An observation against a snapshot finds nothing new. -/
structure Observed (bar : Bar) (snapshot : Snapshot) (model : Model) : Prop where
  focused : snapshot.focusedAddress?.or model.focused = model.focused
  workspaces : ∀ {key workspace}, model.workspaces.get? key = some workspace →
    (workspace.observe bar snapshot).focusOn model.focused = workspace
  orphans : ∀ {address window}, model.orphans.get? address = some window →
    window.active = model.hasFocusOn address

theorem focused_observe (bar : Bar) (snapshot : Snapshot) (model : Model) :
    (model.observe bar snapshot).focused = snapshot.focusedAddress?.or model.focused :=
  focused_shareFocus _

theorem observed_observe (bar : Bar) (snapshot : Snapshot) (model : Model) :
    (model.observe bar snapshot).Observed bar snapshot := by
  constructor
  · rw [focused_observe]
    cases snapshot.focusedAddress? <;> rfl
  · intro key workspace present
    rw [get?_observe] at present
    obtain ⟨origin, -, rfl⟩ := Option.map_eq_some_iff.mp present
    rw [focused_observe, Workspace.observe_focusOn, Workspace.observe_observe]
    rfl
  · intro address window waits
    rw [hasFocusOn, focused_observe]
    exact active_shareFocus waits

namespace Observed

variable {model : Model} {bar : Bar} {snapshot : Snapshot}

theorem growOrphans (observed : model.Observed bar snapshot) {addresses : List String}
    (distinct : addresses.Nodup) : (model.growOrphans bar addresses).Observed bar snapshot := by
  constructor
  · rw [focused_growOrphans]
    exact observed.focused
  · intro key workspace present
    rw [workspaces_growOrphans] at present
    rw [focused_growOrphans]
    exact observed.workspaces present
  · intro address window waits
    rw [hasFocusOn, focused_growOrphans, ← hasFocusOn]
    rw [get?_orphans_growOrphans bar distinct] at waits
    split at waits
    · obtain ⟨old, oldWaits, grown⟩ := Option.bind_eq_some_iff.mp waits
      rw [Bar.grown?] at grown
      split at grown
      · cases grown
      · have known : old.active = model.hasFocusOn address := observed.orphans oldWaits
        rw [← Option.some.inj grown]
        exact known
    · exact observed.orphans waits

theorem observe_eq_self (observed : model.Observed bar snapshot) :
    model.observe bar snapshot = model := by
  have unchanged : (model.workspaces.mapValues fun workspace =>
      workspace.observe bar snapshot).mapValues (fun workspace =>
        workspace.focusOn model.focused) = model.workspaces := by
    refine SortedMap.eq_of_get? fun key => ?_
    rw [SortedMap.get?_mapValues, SortedMap.get?_mapValues, Option.map_map]
    cases present : model.workspaces.get? key with
    | none => rfl
    | some workspace => exact congrArg some (observed.workspaces present)
  have told : focusWorkspaces
      { model with
        focused := snapshot.focusedAddress?.or model.focused
        workspaces := model.workspaces.mapValues fun workspace =>
          workspace.observe bar snapshot } = model := by
    rw [focusWorkspaces]
    dsimp only
    rw [observed.focused, unchanged]
  rw [observe, shareFocus, told]
  refine foldl_eq_self fun address _ => ?_
  have fixed : model.orphans.modify address (fun window =>
      window.withFocus (model.hasFocusOn address)) = model.orphans := by
    refine SortedMap.modify_eq_self fun window waits => ?_
    rw [← observed.orphans waits]
    rfl
  rw [focusOrphan, fixed]

end Observed

end Model

/-! ### Runs -/

namespace Tracker

theorem eq_of_isEmpty {backlog : Backlog} (idle : backlog.isEmpty = true) : backlog = {} := by
  obtain ⟨workspaces, windows, monitorsChanged, configChanged⟩ := backlog
  simp only [Backlog.isEmpty, Bool.and_eq_true, List.isEmpty_iff, Bool.not_eq_true'] at idle
  obtain ⟨⟨⟨rfl, rfl⟩, rfl⟩, rfl⟩ := idle
  rfl

/-- What a tick leaves when no event has come in since the last one. -/
theorem settled_nextModel {tracker : Tracker} (identified : tracker.model.Identified)
    (idle : tracker.backlog.isEmpty = true) {snapshot : Snapshot}
    (distinct : (snapshot.workspaces.map ReportedWorkspace.id).Nodup) :
    (tracker.nextModel snapshot).Settled tracker.bar snapshot ∧
      (tracker.nextModel snapshot).Observed tracker.bar snapshot := by
  rw [nextModel, eq_of_isEmpty idle]
  split
  · have grown := (Model.settled_align identified tracker.bar distinct).growOrphans
      tracker.model.orphans.keys
    exact ⟨grown.observe distinct, Model.observed_observe ..⟩
  · have settled :=
      Model.settled_align (Model.identified_cleared tracker.model) tracker.bar distinct
    exact ⟨settled.observe distinct, Model.observed_observe ..⟩

/-- A tick finds nothing to do after one against the same snapshot. -/
theorem nextModel_of_settled {tracker : Tracker} {snapshot : Snapshot}
    (settled : tracker.model.Settled tracker.bar snapshot)
    (observed : tracker.model.Observed tracker.bar snapshot)
    (distinct : (snapshot.workspaces.map ReportedWorkspace.id).Nodup)
    (loaded : tracker.loaded = true) (idle : tracker.backlog = {}) :
    tracker.nextModel snapshot =
      tracker.model.growOrphans tracker.bar tracker.model.orphans.keys := by
  have caughtUp : catchUp tracker.bar snapshot {} tracker.model =
      tracker.model.growOrphans tracker.bar tracker.model.orphans.keys := by
    show (((tracker.model.align tracker.bar snapshot []).addAllDeclared
      tracker.bar).growOrphans tracker.bar tracker.model.orphans.keys) = _
    rw [settled.align_eq_self distinct, settled.addAllDeclared_eq_self]
  rw [nextModel, loaded, idle]
  show (catchUp tracker.bar snapshot {} tracker.model).observe tracker.bar snapshot = _
  rw [caughtUp]
  exact (observed.growOrphans tracker.model.orphans.keys_nodup).observe_eq_self

/-- Trackers with the same bar show the same buttons for the same workspaces in the same order. -/
theorem buttons_eq {first second : Tracker} (bar : second.bar = first.bar)
    (display : second.display = first.display)
    (workspaces : second.model.workspaces = first.model.workspaces) :
    second.buttons = first.buttons := by
  rw [buttons, buttons, Tracker.workspaces, Tracker.workspaces, bar, display, workspaces]

/-- A second tick only lets windows that wait grow older. -/
theorem tick_tick_eq {tracker : Tracker} (identified : tracker.model.Identified)
    (idle : tracker.backlog.isEmpty = true) {snapshot : Snapshot}
    (distinct : (snapshot.workspaces.map ReportedWorkspace.id).Nodup) :
    let first := tracker.tick snapshot
    first.tick snapshot =
      { first with model := first.model.growOrphans first.bar first.model.orphans.keys } := by
  intro first
  obtain ⟨settled, observed⟩ := settled_nextModel identified idle distinct
  have grown : first.nextModel snapshot =
      first.model.growOrphans first.bar first.model.orphans.keys :=
    nextModel_of_settled settled observed distinct rfl rfl
  have display : (first.tick snapshot).display = first.display := by
    show (first.bar.config.arrangement.sort snapshot.monitors
      (first.nextModel snapshot).workspaces.values).map Workspace.key = _
    rw [grown, Model.workspaces_growOrphans]
    rfl
  show { first with
    model := first.nextModel snapshot
    display := (first.tick snapshot).display } = _
  rw [grown, display]

/-- After every run that ends with nothing to do, a second tick against the snapshot of the first
one shows the same buttons and leaves everything as it is, but that the windows that wait have grown
older by one tick or have been forgotten. -/
theorem tick_tick_run [Pattern.Engine] (config : BarConfig) (inputs : List Input)
    {snapshot : Snapshot}
    (idle : (run config inputs).backlog.isEmpty = true)
    (distinct : (snapshot.workspaces.map ReportedWorkspace.id).Nodup) :
    let bar := Bar.ofConfig config
    let first := (run config inputs).tick snapshot
    let second := first.tick snapshot
    second.buttons = first.buttons ∧
      second = { first with
        model := { first.model with
          orphans := second.model.orphans
          owners := second.model.owners } } ∧
      (∀ address, second.model.orphans.get? address =
        (first.model.orphans.get? address).bind bar.grown?) ∧
      ∀ address, second.model.owners.get? address =
        if (first.model.orphans.get? address).any bar.outgrows = true then none
        else first.model.owners.get? address := by
  intro bar first second
  have sameBar : first.bar = bar := bar_run config inputs
  have repeated : second =
      { first with model := first.model.growOrphans bar first.model.orphans.keys } := by
    rw [← sameBar]
    exact tick_tick_eq (Model.identified_run config inputs) idle distinct
  rw [repeated]
  refine ⟨?_, ?_, fun address => ?_, fun address => ?_⟩
  · exact buttons_eq rfl rfl (Model.workspaces_growOrphans ..)
  · rw [← Model.growOrphans_eq]
  · exact Model.get?_orphans_growAll bar first.model address
  · exact Model.get?_owners_growAll bar first.model address

theorem tick_tick_sampleRun :
    (run {} sampleRun).backlog.isEmpty = true ∧
      (sampleSnapshot.workspaces.map ReportedWorkspace.id).Nodup ∧
      let first := (run {} sampleRun).tick sampleSnapshot
      let second := first.tick sampleSnapshot
      second.buttons = first.buttons ∧ first.model.orphans.keys = ["ab"] ∧
        second.model.orphans.get? "ab" =
          (first.model.orphans.get? "ab").bind (Bar.ofConfig {}).grown? := by
  have distinct : (sampleSnapshot.workspaces.map ReportedWorkspace.id).Nodup := by decide
  have repeated := tick_tick_run {} sampleRun (by decide) distinct
  exact ⟨by decide, distinct, repeated.1, by decide, repeated.2.2.1 "ab"⟩

end Tracker

end Deskbar
