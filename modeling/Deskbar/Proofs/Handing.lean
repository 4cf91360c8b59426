/-
This file says when the waiting of a window goes on. Workspaces take in windows in one way only: a
window is handed to a workspace by a claim, by the gathering of reported windows, or by a change
that opens or moves it. The operations of a tick are followed here by the addresses that they hand
over, in the models in which they do it, and a window that waits and is not among these waits on,
for as long as before.

A change of a window can end its waiting in two more ways: it closes the window, or opens it under
another reference than the one that it waits for, which lets it wait anew.
-/

import Deskbar.Proofs.Folds
import Deskbar.Proofs.Locality

namespace Deskbar

namespace Window

theorem address_sendTo (window : Window) (target : String) :
    (window.sendTo target).address = window.address := by rw [sendTo]

theorem age_sendTo (window : Window) (target : String) :
    (window.sendTo target).age = window.age := by rw [sendTo]

theorem age_withFocus (window : Window) (active : Bool) :
    (window.withFocus active).age = window.age := by rw [withFocus]

/-- A window that gets another title has waited for as long as before. -/
theorem age_getD_retitle? (window : Window) (title? : Option String) :
    ((title?.bind window.retitle?).getD window).age = window.age := by
  cases title? with
  | none => rfl
  | some title =>
    rw [Option.bind_some, retitle?]
    split <;> rfl

end Window

namespace Model

/-! ### Windows that are handed to workspaces -/

/-- The address of the window that the claim of one window hands over. -/
def handedByClaimOne (model : Model) (address : String) : List String :=
  ((model.orphans.get? address).map Window.address).toList

/-- The addresses of the windows that a workspace claims. -/
def handedByClaim (bar : Bar) (key : Nat) (model : Model) : List String :=
  match model.workspaces.get? key with
  | none => []
  | some workspace =>
    noted (claimOne bar key) handedByClaimOne model (model.waitingFor workspace.reference)

/-- The address of the window of a report that a workspace gathers. -/
def handedByGatherOne (key : Nat) (model : Model) (report : ReportedWindow) : List String :=
  let address := plainAddress report.address
  if model.owners.get? address = some (.workspace key) then [] else [address]

/-- The addresses of the windows that a workspace gathers and claims when it comes onto the bar. -/
def handedByJoin (bar : Bar) (snapshot : Snapshot) (key : Nat) (id : Int) (model : Model) :
    List String :=
  noted (gatherOne bar key) (handedByGatherOne key) model
      (snapshot.windows.filter fun report => report.workspace.id = id) ++
    (model.gather bar snapshot key id).handedByClaim bar key

/-- The addresses of the windows that are handed to the workspace of a report when it comes. -/
def handedByEnsure (bar : Bar) (snapshot : Snapshot) (report : ReportedWorkspace) (model : Model) :
    List String :=
  if bar.takesReport report then
    match model.forReport? report with
    | some workspace =>
      let adopted := model.update workspace.key fun workspace => workspace.adopt report
      if workspace.id.isSome then adopted.handedByClaim bar workspace.key
      else adopted.handedByJoin bar snapshot workspace.key report.id
    | none => (model.create bar report).handedByJoin bar snapshot (model.lastKey + 1) report.id
  else []

/-- The addresses of the windows that are handed over when a workspace is looked for by its name. -/
def handedByEnsureNamed (bar : Bar) (snapshot : Snapshot) (raw : String) (model : Model) :
    List String :=
  let byReference :=
    snapshot.workspaces.find? fun report =>
      workspaceReference report.name = workspaceReference raw
  match (snapshot.byRawName? raw).or byReference with
  | some report => model.handedByEnsure bar snapshot report
  | none => []

/-- The addresses of the windows that a workspace claims under another name. -/
def handedByRename (bar : Bar) (key : Nat) (raw : String) (model : Model) : List String :=
  match model.workspaces.get? key with
  | none => []
  | some workspace =>
    let renamed := workspace.rename raw
    let renamed :=
      { renamed with
        flags := { renamed.flags with persistentConfig := bar.declares renamed.name } }
    if keeps bar renamed then (model.update key fun _ => renamed).handedByClaim bar key else []

/-- The addresses of the windows that a change of a workspace hands over. -/
def handedByChange (bar : Bar) (snapshot : Snapshot) (model : Model) :
    WorkspaceChange → List String
  | .destroyed _ _ => []
  | .created id raw =>
    match (match id with | some id => snapshot.byId? id | none => snapshot.byRawName? raw) with
    | some report => model.handedByEnsure bar snapshot report
    | none => []
  | .renamed id raw =>
    match model.withId? id with
    | some workspace => model.handedByRename bar workspace.key raw
    | none => []
  | .moved raw _ =>
    match model.named? raw with
    | some _ => []
    | none => model.handedByEnsureNamed bar snapshot raw
  | .activated raw =>
    match model.named? raw with
    | some _ => []
    | none => model.handedByEnsureNamed bar snapshot raw

/-- The addresses of the windows that are handed over when the workspaces are made to agree with the
reports. -/
def handedByAlign (bar : Bar) (snapshot : Snapshot) (excluded : List String) (model : Model) :
    List String :=
  noted (fun model report => model.ensure bar snapshot report)
    (fun model report => model.handedByEnsure bar snapshot report) (model.removeStale bar snapshot)
    ((sortBy (compareOn ReportedWorkspace.id) snapshot.workspaces).filter fun report =>
      !excluded.contains (shownName report.name))

/-- The addresses of the windows that the work on workspaces hands over. -/
def handedByWork (bar : Bar) (snapshot : Snapshot) (changes : List WorkspaceChange)
    (model : Model) : List String :=
  let removed := model.removeDestroyed snapshot changes
  noted (applyChange bar snapshot) (handedByChange bar snapshot) removed changes ++
    (removed.applyChanges bar snapshot changes).handedByAlign bar snapshot
      (changes.filterMap destroyedName?)

/-- The address of a window that goes to the workspace it refers to, if that is there. -/
def handedBySettle (window : Window) (model : Model) : List String :=
  match model.named? window.workspace with
  | some _ => [window.address]
  | none => []

/-- The address of the window that a change of a window hands over. -/
def handedByWindowChange (snapshot : Snapshot) (model : Model) : WindowChange → List String
  | .opened address target windowClass title =>
    let window := Window.ofIdentity target address windowClass title
    if model.isReplay window then [] else model.handedBySettle window
  | .moved address target =>
    let address := plainAddress address
    let (withdrawn?, model) := model.withdraw address
    let reported? := (snapshot.window? address).map fun report =>
      Window.ofIdentity target address report.windowClass report.title
    match (withdrawn?.map fun window => window.sendTo target).or reported? with
    | some window => model.handedBySettle window
    | none => []
  | _ => []

/-- The address of the window that a change closes, or opens under another reference than the one
that it waits for. -/
def endedByWindowChange (model : Model) : WindowChange → List String
  | .opened address target windowClass title =>
    let window := Window.ofIdentity target address windowClass title
    if (model.orphans.get? window.address).any fun waiting =>
        waiting.workspace ≠ window.workspace then [window.address]
    else []
  | .closed address => [plainAddress address]
  | _ => []

/-! ### Windows that wait on -/

/-- The window with an address waits, and has waited for a number of ticks. -/
def Waits (address : String) (age : UInt32) (model : Model) : Prop :=
  ∃ window : Window, model.Locates address (.waiting window) ∧ window.age = age

namespace Waits

variable {model : Model} {bar : Bar} {snapshot : Snapshot} {address : String} {age : UInt32}

theorem of_holding {next : Model} (waits : model.Waits address age)
    (same : next.holding address = model.holding address) : next.Waits address age := by
  obtain ⟨window, located, aged⟩ := waits
  exact ⟨window, located.of_holding same, aged⟩

/-! ### Work on workspaces -/

theorem claimOne (waits : model.Waits address age) (owned : model.Owned) (bar : Bar) (key : Nat)
    {other : String} (absent : address ∉ model.handedByClaimOne other) :
    (model.claimOne bar key other).Waits address age := by
  refine waits.of_holding (holding_claimOne_of_ne owned bar key fun itsTurn => absent ?_)
  obtain ⟨window, located, -⟩ := waits
  have here : model.orphans.get? other = some window := itsTurn ▸ located.orphan
  rw [handedByClaimOne, here, Option.map_some, (owned.waiting here).2.1, itsTurn]
  exact List.mem_singleton.mpr rfl

theorem claim (waits : model.Waits address age) (owned : model.Owned) {key : Nat}
    (absent : address ∉ model.handedByClaim bar key) :
    (model.claim bar key).Waits address age := by
  rw [Model.claim]
  cases present : model.workspaces.get? key with
  | none => exact waits
  | some workspace =>
    simp only [handedByClaim, present] at absent
    refine (foldl_of_not_mem_noted (fun next => Owned next ∧ next.Waits address age) ?_ absent
      ⟨owned, waits⟩).2
    rintro next ⟨kept, still⟩ other - notHanded
    exact ⟨kept.claimOne bar key other, still.claimOne kept bar key notHanded⟩

theorem gather (waits : model.Waits address age) {key : Nat} {id : Int}
    (absent : address ∉ noted (gatherOne bar key) (handedByGatherOne key) model
      (snapshot.windows.filter fun report => report.workspace.id = id)) :
    (model.gather bar snapshot key id).Waits address age := by
  refine foldl_of_not_mem_noted (Waits address age) (fun next still report _ notHanded => ?_)
    absent waits
  rw [gatherOne]
  split
  · exact still
  · next elsewhere =>
    refine still.of_holding (holding_place_of_ne next bar key _ fun same => notHanded ?_)
    rw [handedByGatherOne]
    exact (if_neg elsewhere).symm ▸ List.mem_singleton.mpr same

/-- A window that is not handed to a workspace that comes onto the bar waits on. -/
theorem join (waits : model.Waits address age) (owned : model.Owned)
    (addressed : snapshot.IsAddressed) {key : Nat} {id : Int}
    (absent : address ∉ model.handedByJoin bar snapshot key id) :
    ((model.gather bar snapshot key id).claim bar key).Waits address age := by
  obtain ⟨notGathered, notClaimed⟩ := not_or.mp fun either => absent (List.mem_append.mpr either)
  exact (waits.gather notGathered).claim (owned.gather addressed bar key id) notClaimed

theorem ensure (waits : model.Waits address age) (sound : model.Sound)
    (addressed : snapshot.IsAddressed) {report : ReportedWorkspace}
    (absent : address ∉ model.handedByEnsure bar snapshot report) :
    (model.ensure bar snapshot report).Waits address age := by
  cases taken : bar.takesReport report with
  | false => rwa [ensure_of_refused taken]
  | true =>
    rw [handedByEnsure, if_pos taken] at absent
    cases found : model.forReport? report with
    | some workspace =>
      have adopted : (model.update workspace.key fun workspace =>
          workspace.adopt report).Waits address age :=
        waits.of_holding (holding_update fun _ _ => rfl)
      have owned : (model.update workspace.key fun workspace => workspace.adopt report).Owned :=
        sound.owned.update fun _ _ => rfl
      simp only [found] at absent
      rw [ensure_of_found taken snapshot found]
      dsimp only
      split
      · next known =>
        rw [if_pos known] at absent
        exact adopted.claim owned absent
      · next unknown =>
        rw [if_neg unknown] at absent
        exact adopted.join owned addressed absent
    | none =>
      have created : (model.create bar report).Waits address age :=
        waits.of_holding (holding_insert model sound.identified.get?_next rfl _ address)
      have owned : (model.create bar report).Owned := sound.owned.insert sound.identified rfl
      simp only [found] at absent
      rw [ensure_of_missing taken snapshot found]
      exact created.join owned addressed absent

theorem ensureNamed (waits : model.Waits address age) (sound : model.Sound)
    (addressed : snapshot.IsAddressed) {raw : String}
    (absent : address ∉ model.handedByEnsureNamed bar snapshot raw) :
    (model.ensureNamed bar snapshot raw).Waits address age := by
  rw [Model.ensureNamed]
  split
  · next report found =>
    simp only [handedByEnsureNamed, found] at absent
    exact waits.ensure sound addressed absent
  · exact waits

theorem replace (waits : model.Waits address age) {key : Nat} {workspace replacement : Workspace}
    (present : model.workspaces.get? key = some workspace)
    (same : replacement.windows = workspace.windows) :
    (model.update key fun _ => replacement).Waits address age :=
  waits.of_holding (holding_update fun other found => by
    rw [same, Option.some.inj (found.symm.trans present)])

/-- Removal of a workspace leaves windows alone that wait. -/
theorem remove (waits : model.Waits address age) (owned : model.Owned) (snapshot : Snapshot)
    (key : Nat) : (model.remove snapshot key).Waits address age := by
  obtain ⟨window, located, aged⟩ := waits
  obtain ⟨next, here, ⟨rfl, -⟩ | ⟨text, shown, -⟩⟩ :=
    exists_locates_remove owned snapshot key located
  · exact ⟨window, here, aged⟩
  · cases shown

theorem rename (waits : model.Waits address age) (owned : model.Owned) (snapshot : Snapshot)
    {key : Nat} {raw : String} (absent : address ∉ model.handedByRename bar key raw) :
    (model.rename bar snapshot key raw).Waits address age := by
  unfold Model.rename
  rw [handedByRename] at absent
  cases present : model.workspaces.get? key with
  | none => exact waits
  | some workspace =>
    simp only [present] at absent
    dsimp only
    split
    · next kept =>
      rw [if_pos kept] at absent
      refine claim ?_ ?_ absent
      · exact waits.replace present rfl
      · exact owned.replace present rfl
    · refine remove ?_ ?_ snapshot key
      · exact waits.replace present rfl
      · exact owned.replace present rfl

theorem relocate (waits : model.Waits address age) (owned : model.Owned) (bar : Bar)
    (snapshot : Snapshot) (key : Nat) (output : String) :
    (model.relocate bar snapshot key output).Waits address age := by
  unfold Model.relocate
  split
  · exact waits
  · next workspace present =>
    dsimp only
    split
    · exact waits.replace present rfl
    · refine remove ?_ ?_ snapshot key
      · exact waits.replace present rfl
      · exact owned.replace present rfl

theorem applyChange (waits : model.Waits address age) (sound : model.Sound)
    (addressed : snapshot.IsAddressed) {change : WorkspaceChange}
    (absent : address ∉ model.handedByChange bar snapshot change) :
    (model.applyChange bar snapshot change).Waits address age := by
  cases change with
  | destroyed id raw => exact waits
  | created id raw =>
    rw [Model.applyChange.eq_def]
    rw [handedByChange.eq_def] at absent
    cases id
    all_goals
      dsimp only at absent ⊢
      split
      · next report found =>
        rw [found] at absent
        exact waits.ensure sound addressed absent
      · exact waits
  | renamed id raw =>
    rw [Model.applyChange]
    rw [handedByChange] at absent
    cases found : model.withId? id with
    | none => exact waits
    | some workspace =>
      rw [found] at absent
      exact waits.rename sound.owned snapshot absent
  | moved raw monitor =>
    rw [Model.applyChange]
    rw [handedByChange] at absent
    cases found : model.named? raw with
    | none =>
      rw [found] at absent
      exact waits.ensureNamed sound addressed absent
    | some workspace => exact waits.relocate sound.owned bar snapshot workspace.key monitor
  | activated raw =>
    rw [Model.applyChange]
    rw [handedByChange] at absent
    cases found : model.named? raw with
    | none =>
      rw [found] at absent
      exact waits.ensureNamed sound addressed absent
    | some workspace => exact waits

theorem align (waits : model.Waits address age) (sound : model.Sound)
    (addressed : snapshot.IsAddressed) {excluded : List String}
    (absent : address ∉ model.handedByAlign bar snapshot excluded) :
    (model.align bar snapshot excluded).Waits address age := by
  have removed : (model.removeStale bar snapshot).Sound ∧
      (model.removeStale bar snapshot).Waits address age :=
    List.foldlRecOn _ _ (motive := fun next => Sound next ∧ next.Waits address age)
      ⟨sound, waits⟩ fun next ⟨kept, still⟩ key _ =>
        ⟨kept.remove snapshot key, still.remove kept.owned snapshot key⟩
  exact (foldl_of_not_mem_noted (fun next => Sound next ∧ next.Waits address age)
    (fun next ⟨kept, still⟩ report _ notHanded =>
      ⟨kept.ensure addressed bar report, still.ensure kept addressed notHanded⟩)
    absent removed).2

theorem removeDestroyed (waits : model.Waits address age) (sound : model.Sound)
    (addressed : snapshot.IsAddressed) (bar : Bar) (changes : List WorkspaceChange) :
    (model.removeDestroyed snapshot changes).Sound ∧
      (model.removeDestroyed snapshot changes).Waits address age := by
  refine List.foldlRecOn changes (removeIfDestroyed snapshot)
    (motive := fun next => Sound next ∧ next.Waits address age) ⟨sound, waits⟩
    fun next ⟨kept, still⟩ change _ => ?_
  refine ⟨(Sound.stepwise addressed bar).removeIfDestroyed next change kept, ?_⟩
  cases change with
  | destroyed id raw =>
    rw [removeIfDestroyed]
    split
    · exact still.remove kept.owned snapshot _
    · exact still
  | _ => exact still

/-- A window that is not handed over waits on while workspaces change. -/
theorem beforeWindowChanges (waits : model.Waits address age) (sound : model.Sound)
    (addressed : snapshot.IsAddressed) {changes : List WorkspaceChange}
    (absent : address ∉ model.handedByWork bar snapshot changes) :
    ((((model.removeDestroyed snapshot changes).applyChanges bar snapshot changes).align bar
      snapshot (changes.filterMap destroyedName?)).addAllDeclared bar).Waits address age := by
  obtain ⟨notChanged, notAligned⟩ := not_or.mp fun either => absent (List.mem_append.mpr either)
  have changed : ((model.removeDestroyed snapshot changes).applyChanges bar snapshot
        changes).Sound ∧
      ((model.removeDestroyed snapshot changes).applyChanges bar snapshot changes).Waits address
        age :=
    foldl_of_not_mem_noted (fun next => Sound next ∧ next.Waits address age)
      (fun next ⟨kept, still⟩ change _ notHanded =>
        ⟨(Sound.stepwise addressed bar).applyChange next change kept,
          still.applyChange kept addressed notHanded⟩)
      notChanged (waits.removeDestroyed sound addressed bar changes)
  refine (changed.2.align changed.1 addressed notAligned).of_holding ?_
  exact holding_addAllDeclared (changed.1.align addressed bar _).identified bar address

end Waits

/-! ### Changes of windows -/

section Changes

variable {model : Model} {bar : Bar} {snapshot : Snapshot} {address : String} {age : UInt32}

theorem address_mem_handedBySettle {window : Window} {workspace : Workspace}
    (found : model.named? window.workspace = some workspace) :
    window.address ∈ model.handedBySettle window := by
  rw [handedBySettle, found]
  exact List.mem_singleton.mpr rfl

/-- A window that is not handed over waits for the workspace that it is given to. -/
theorem destination_of_not_handed {window : Window}
    (absent : window.address ∉ model.handedBySettle window) (bar : Bar) :
    model.destination bar window =
      .waiting (window.withFocus (model.hasFocusOn window.address)) := by
  rw [destination, meant?]
  cases found : model.named? window.workspace with
  | none => rfl
  | some workspace => exact absurd (address_mem_handedBySettle found) absent

/-- A window that is opened and goes on to wait is opened under the reference that it waits for. -/
theorem workspace_of_not_ended {opened target windowClass title : String} {waiting : Window}
    (here : model.orphans.get? (plainAddress opened) = some waiting)
    (absent : plainAddress opened ∉
      model.endedByWindowChange (.opened opened target windowClass title)) :
    waiting.workspace = workspaceReference target := by
  by_contra elsewhere
  have differs : ((model.orphans.get? (plainAddress opened)).any fun waiting =>
      waiting.workspace ≠ workspaceReference target) = true := by
    rw [here, Option.any_some]
    exact decide_eq_true elsewhere
  have ended : model.endedByWindowChange (.opened opened target windowClass title) =
      [plainAddress opened] := if_pos differs
  exact absent (ended ▸ List.mem_singleton.mpr rfl)

/-- An opened window that is neither handed over nor opened under another reference is known to wait
where it belongs. -/
theorem repeats_of_not_handed (window : Window) {waiting : Window}
    (located : model.Locates window.address (.waiting waiting))
    (same : waiting.workspace = window.workspace)
    (absent : window.address ∉
      if model.isReplay window then [] else model.handedBySettle window) :
    Place.repeats window (model.meant? window.workspace) (.waiting waiting) = true := by
  rw [isReplay_eq located rfl, meant?, Place.repeats] at absent
  rw [meant?, Place.repeats]
  cases found : model.named? window.workspace with
  | none =>
    rw [Option.map_none, Option.isNone_none, Bool.true_and]
    exact decide_eq_true same
  | some workspace =>
    rw [found, Option.map_some, Option.isNone_some, Bool.false_and,
      if_neg Bool.false_ne_true] at absent
    exact absurd (address_mem_handedBySettle found) absent

/-- A window that waits, is not handed over and does not have its waiting ended waits on, for as
long as before. -/
theorem Waits.applyWindowChange (waits : model.Waits address age) (sound : model.Sound)
    {change : WindowChange} (addressed : change.IsAddressed)
    (notHanded : address ∉ model.handedByWindowChange snapshot change)
    (notEnded : address ∉ model.endedByWindowChange change) :
    (model.applyWindowChange bar snapshot change).Waits address age := by
  obtain ⟨window, located, rfl⟩ := waits
  have led := locates_applyWindowChange sound bar snapshot addressed located
  suffices kept : ∃ after : Window, model.leads bar snapshot address (.waiting window) change =
      .waiting after ∧ after.age = window.age by
    obtain ⟨after, leads, same⟩ := kept
    exact ⟨after, leads ▸ led, same⟩
  rw [leads]
  split
  · next touched =>
    cases change with
    | opened other target windowClass title =>
      obtain rfl : plainAddress other = address := of_decide_eq_true touched
      have same := workspace_of_not_ended located.orphan notEnded
      have repeats := repeats_of_not_handed (Window.ofIdentity target other windowClass title)
        located same notHanded
      exact ⟨window, if_pos repeats, rfl⟩
    | closed other =>
      obtain rfl : plainAddress other = address := of_decide_eq_true touched
      exact absurd (List.mem_singleton.mpr rfl) notEnded
    | moved other target =>
      obtain rfl : plainAddress other = address := of_decide_eq_true touched
      have named := (sound.owned.waiting located.orphan).2.1
      have moved : movedWindow? snapshot (plainAddress other) target (.waiting window) =
          some (window.sendTo target) := by
        rw [movedWindow?, Place.sent?, Option.some_or]
      have absent : (window.sendTo target).address ∉
          (model.withdraw (plainAddress other)).2.handedBySettle (window.sendTo target) := by
        rw [handedByWindowChange] at notHanded
        dsimp only at notHanded
        rw [map_sendTo_withdraw located, ← movedWindow?, moved] at notHanded
        rwa [Window.address_sendTo, named]
      have waiting := destination_of_not_handed absent bar
      rw [destination_of_outline sound.identified (outline_withdraw ..)
        (focused_withdraw ..)] at waiting
      rw [takes, moved]
      exact ⟨_, waiting, (Window.age_withFocus ..).trans (Window.age_sendTo ..)⟩
    | retitled other title => exact ⟨_, rfl, Window.age_getD_retitle? ..⟩
    | urgent other => cases touched
    | focused other => cases touched
  · cases change with
    | focused focused => exact ⟨_, rfl, rfl⟩
    | _ => exact ⟨window, rfl, rfl⟩

end Changes

end Model

/-! ### Ticks -/

namespace Tracker

/-- The addresses of the windows that a tick that carries on hands to workspaces. -/
def handed (snapshot : Snapshot) (tracker : Tracker) : List String :=
  tracker.model.handedByWork tracker.bar snapshot tracker.backlog.workspaces ++
    noted (Model.applyWindowChange tracker.bar snapshot) (Model.handedByWindowChange snapshot)
      (tracker.midway snapshot []) tracker.backlog.windows

/-- The addresses of the windows that the changes in a tick close, or open under another reference
than the one that they wait for at that time. -/
def ended (snapshot : Snapshot) (tracker : Tracker) : List String :=
  noted (Model.applyWindowChange tracker.bar snapshot) Model.endedByWindowChange
    (tracker.midway snapshot []) tracker.backlog.windows

/-- A tick lets a window wait on: it does not start over, it hands the window to no workspace, and
no change in it ends the waiting. -/
structure LetsWait (address : String) (tracker : Tracker) (snapshot : Snapshot) : Prop where
  carriesOn : tracker.startsOver = false
  notHanded : address ∉ tracker.handed snapshot
  notEnded : address ∉ tracker.ended snapshot

/-- A window that a tick lets wait on waits when the changes of windows have been carried out. -/
theorem waits_midway {tracker : Tracker} (sound : tracker.model.Sound) {snapshot : Snapshot}
    (snapshotAddressed : snapshot.IsAddressed)
    (addressed : ∀ change ∈ tracker.backlog.windows, change.IsAddressed) {address : String}
    {age : UInt32} (waits : tracker.model.Waits address age)
    (letsWait : tracker.LetsWait address snapshot) :
    (tracker.midway snapshot tracker.backlog.windows).Waits address age := by
  obtain ⟨-, notHanded, notEnded⟩ := letsWait
  obtain ⟨notWorked, notHanded⟩ := not_or.mp fun either => notHanded (List.mem_append.mpr either)
  have ready : (tracker.midway snapshot []).Sound ∧
      (tracker.midway snapshot []).Waits address age :=
    ⟨sound.beforeWindowChanges snapshotAddressed tracker.bar tracker.backlog.workspaces,
      waits.beforeWindowChanges sound snapshotAddressed notWorked⟩
  have neither : address ∉ noted (Model.applyWindowChange tracker.bar snapshot)
      (fun (model : Model) change =>
        model.handedByWindowChange snapshot change ++ model.endedByWindowChange change)
      (tracker.midway snapshot []) tracker.backlog.windows :=
    fun either => (mem_noted_append_iff.mp either).elim notHanded notEnded
  refine (foldl_of_not_mem_noted (fun next : Model => next.Sound ∧ next.Waits address age)
    (fun next ⟨kept, still⟩ change member absent => ?_) neither ready).2
  obtain ⟨notHere, notHereEnded⟩ := not_or.mp fun either => absent (List.mem_append.mpr either)
  exact ⟨kept.applyWindowChange tracker.bar snapshot (addressed change member),
    still.applyWindowChange kept (addressed change member) notHere notHereEnded⟩

end Tracker

end Deskbar
