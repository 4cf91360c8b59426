/-
This file shows that every window has one owner. A model is owned when every window is at one
place, and stands there under its own address. Every operation keeps a model owned as long as
addresses are written as the compositor writes them: an address with a lead behind its lead would
come back from a workspace as the address of another window.

Only the removal of a workspace leaves windows without a place for a while. Its windows are loose
until their turn comes, in the index and nowhere else, and nothing that is done for one of them
touches another one.
-/

import Deskbar.Proofs.Holding
import Deskbar.Proofs.Identity

namespace Deskbar

/-- Whether a place is one for the window with an address. -/
def Place.Fits (address : String) : Place → Prop
  | .nowhere => True
  | .waiting window => window.address = address ∧ plainAddress address = address
  | .shown _ _ => plainAddress address = address

/-- Whether all the windows in a snapshot have addresses as the compositor writes them. -/
def Snapshot.IsAddressed (snapshot : Snapshot) : Prop :=
  ∀ report ∈ snapshot.windows, IsAddress report.address

/-- Whether a change speaks of an address as the compositor writes it. -/
def WindowChange.IsAddressed (change : WindowChange) : Prop :=
  ∀ address, change.address? = some address → IsAddress address

theorem Window.fits_placeOn {window : Window} (rewriter : Rewriter) (key : Nat)
    (plain : plainAddress window.address = window.address) :
    (window.placeOn rewriter key).Fits window.address := by
  rw [placeOn]
  split
  · trivial
  · exact plain

namespace Model

/-- Every window is at one place and stands there under its own address. -/
structure Owned (model : Model) : Prop where
  located : ∀ address, ∃ place : Place, model.Locates address place ∧ place.Fits address

theorem owned_empty : empty.Owned :=
  ⟨fun _ => ⟨.nowhere, locates_iff.mpr ⟨rfl, rfl, fun _ => rfl⟩, trivial⟩⟩

namespace Owned

variable {model : Model}

theorem of_holding {next : Model} (owned : model.Owned)
    (same : ∀ address, next.holding address = model.holding address) : next.Owned := by
  refine ⟨fun address => ?_⟩
  obtain ⟨place, located, fits⟩ := owned.located address
  exact ⟨place, located.of_holding (same address), fits⟩

/-- One window may go to another place when all the others stay. -/
theorem change {next : Model} {address : String} {place : Place} (owned : model.Owned)
    (here : next.Locates address place) (fits : place.Fits address)
    (elsewhere : ∀ other, other ≠ address → next.holding other = model.holding other) :
    next.Owned := by
  refine ⟨fun other => ?_⟩
  by_cases same : other = address
  · rw [same]
    exact ⟨place, here, fits⟩
  · obtain ⟨otherPlace, located, otherFits⟩ := owned.located other
    exact ⟨otherPlace, located.of_holding (elsewhere other same), otherFits⟩

/-- A window that waits is known under its own address, which has no lead. -/
theorem waiting (owned : model.Owned) {address : String} {window : Window}
    (found : model.orphans.get? address = some window) :
    model.Locates address (.waiting window) ∧ window.address = address ∧
      plainAddress address = address := by
  obtain ⟨place, located, fits⟩ := owned.located address
  have orphan := located.orphan
  rw [found] at orphan
  cases place with
  | waiting other =>
    rw [Option.some.inj orphan]
    exact ⟨located, fits⟩
  | nowhere => cases orphan
  | shown key text => cases orphan

/-- A window on a workspace is known to be there, under an address that has no lead. -/
theorem shown (owned : model.Owned) {address text : String} {key : Nat}
    (found : model.textOn? key address = some text) :
    model.Locates address (.shown key text) ∧ plainAddress address = address := by
  obtain ⟨place, located, fits⟩ := owned.located address
  have onKey := located.text key
  rw [found] at onKey
  cases place with
  | shown other otherText =>
    simp only [Place.holding] at onKey
    split at onKey
    · next same =>
      rw [same, Option.some.inj onKey]
      exact ⟨located, fits⟩
    · cases onKey
  | nowhere => cases onKey
  | waiting window => cases onKey

/-! ### Single windows -/

theorem withdraw (owned : model.Owned) (address : String) :
    (model.withdraw address).2.Owned := by
  obtain ⟨place, located, -⟩ := owned.located address
  exact owned.change (locates_withdraw located) trivial
    fun other different => holding_withdraw_of_ne model different

/-- A window that was taken from its owner keeps its address. -/
theorem address_of_withdraw (owned : model.Owned) {address : String} {window : Window}
    (withdrawn : (model.withdraw address).1 = some window) :
    window.address = address ∧ plainAddress address = address := by
  obtain ⟨place, located, fits⟩ := owned.located address
  rw [Model.withdraw, located.owner] at withdrawn
  cases place with
  | nowhere => cases withdrawn
  | waiting other => exact (owned.waiting withdrawn).2
  | shown key text =>
    have onKey : model.textOn? key address = some text := (located.text key).trans (if_pos rfl)
    obtain ⟨workspace, present, texts⟩ := Option.bind_eq_some_iff.mp onKey
    simp only [Place.holding, present, texts, Option.map_some, Option.some.injEq] at withdrawn
    rw [← withdrawn]
    exact ⟨fits, fits⟩

theorem place (owned : model.Owned) {window : Window}
    (plain : plainAddress window.address = window.address) (bar : Bar) (key : Nat) :
    (model.place bar key window).Owned := by
  obtain ⟨place, located, -⟩ := owned.located window.address
  have elsewhere : ∀ other, other ≠ window.address →
      (model.place bar key window).holding other = model.holding other :=
    fun other different => holding_place_of_ne model bar key window different
  cases present : model.workspaces.get? key with
  | none => exact owned.change (locates_place_of_absent bar located present) trivial elsewhere
  | some workspace =>
    exact owned.change (locates_place bar located present)
      (Window.fits_placeOn bar.rewriter key plain) elsewhere

theorem orphan (owned : model.Owned) {window : Window}
    (plain : plainAddress window.address = window.address) : (model.orphan window).Owned := by
  obtain ⟨place, located, -⟩ := owned.located window.address
  exact owned.change (locates_orphan located) ⟨rfl, plain⟩
    fun other different => holding_orphan_of_ne model different

theorem settle (owned : model.Owned) {window : Window}
    (plain : plainAddress window.address = window.address) (bar : Bar) :
    (model.settle bar window).Owned := by
  rw [Model.settle]
  split
  · exact owned.place plain bar _
  · exact owned.orphan plain

theorem claimOne (owned : model.Owned) (bar : Bar) (key : Nat) (address : String) :
    (model.claimOne bar key address).Owned := by
  rw [Model.claimOne]
  split
  · exact owned
  · next window found =>
    obtain ⟨located, named, plain⟩ := owned.waiting found
    have forgotten := owned.change (locates_forget located) trivial
      fun other different => holding_forget_of_ne model different
    refine forgotten.place ?_ bar key
    rw [named, plain]

theorem claim (owned : model.Owned) (bar : Bar) (key : Nat) : (model.claim bar key).Owned := by
  rw [Model.claim]
  split
  · exact owned
  · exact List.foldlRecOn _ _ owned fun _ kept address _ => kept.claimOne bar key address

theorem gather (owned : model.Owned) {snapshot : Snapshot} (addressed : snapshot.IsAddressed)
    (bar : Bar) (key : Nat) (id : Int) : (model.gather bar snapshot key id).Owned := by
  refine List.foldlRecOn _ _ owned fun next kept report member => ?_
  have isAddress := addressed report (List.mem_of_mem_filter member)
  rw [gatherOne]
  split
  · exact kept
  · refine kept.place ?_ bar key
    exact isAddress.plainAddress_plainAddress

/-! ### Workspaces -/

/-- Workspaces may change as they like if they keep their windows. -/
theorem update (owned : model.Owned) {key : Nat} {change : Workspace → Workspace}
    (kept : ∀ workspace, model.workspaces.get? key = some workspace →
      (change workspace).windows = workspace.windows) : (model.update key change).Owned :=
  owned.of_holding fun address => holding_update fun workspace present =>
    congrArg (SortedMap.get? · address) (kept workspace present)

theorem replace (owned : model.Owned) {key : Nat} {workspace replacement : Workspace}
    (present : model.workspaces.get? key = some workspace)
    (kept : replacement.windows = workspace.windows) :
    (model.update key fun _ => replacement).Owned := by
  refine owned.update fun other found => ?_
  rw [kept, Option.some.inj (found.symm.trans present)]

theorem insert (owned : model.Owned) (identified : model.Identified) {workspace : Workspace}
    (bare : workspace.windows = SortedMap.empty) :
    { model with
      workspaces := model.workspaces.insert (model.lastKey + 1) workspace
      lastKey := model.lastKey + 1 }.Owned :=
  owned.of_holding (holding_insert model identified.get?_next bare (model.lastKey + 1))

theorem remove (owned : model.Owned) (snapshot : Snapshot) (key : Nat) :
    (model.remove snapshot key).Owned := by
  cases present : model.workspaces.get? key with
  | none => rwa [remove_of_absent snapshot present]
  | some workspace =>
    have plain : ∀ address ∈ workspace.windows.keys, plainAddress address = address := by
      intro address member
      obtain ⟨text, found⟩ := SortedMap.mem_keys_iff.mp member
      exact (owned.shown ((textOn?_of_get? present address).trans found)).2
    refine ⟨fun address => ?_⟩
    cases found : workspace.windows.get? address with
    | none =>
      obtain ⟨place, located, fits⟩ := owned.located address
      exact ⟨place, located.of_holding
        (holding_remove_of_elsewhere snapshot present plain found), fits⟩
    | some text =>
      obtain ⟨located, isPlain⟩ := owned.shown ((textOn?_of_get? present address).trans found)
      refine ⟨_, locates_remove snapshot present plain located, ?_⟩
      rw [Snapshot.leftBehind?]
      cases snapshot.window? address with
      | none => trivial
      | some report => exact ⟨isPlain, isPlain⟩

theorem ensure (owned : model.Owned) (identified : model.Identified) {snapshot : Snapshot}
    (addressed : snapshot.IsAddressed) (bar : Bar) (report : ReportedWorkspace) :
    (model.ensure bar snapshot report).Owned := by
  rw [Model.ensure]
  split
  · split
    · next workspace _ =>
      have adopted : (model.update workspace.key fun workspace =>
          workspace.adopt report).Owned := owned.update fun _ _ => rfl
      split
      · exact adopted.claim ..
      · exact (adopted.gather addressed ..).claim ..
    · have created : (model.create bar report).Owned := owned.insert identified rfl
      exact (created.gather addressed ..).claim ..
  · exact owned

theorem addDeclared (owned : model.Owned) (identified : model.Identified) (bar : Bar)
    (raw : String) : (model.addDeclared bar raw).Owned := by
  rw [Model.addDeclared]
  dsimp only
  split
  · exact owned.insert identified rfl
  · exact owned

/-! ### Focus -/

/-- A window that waits may change where it waits if it keeps its address. -/
theorem modifyOrphan (owned : model.Owned) (address : String) {change : Window → Window}
    (kept : ∀ window, (change window).address = window.address) :
    { model with orphans := model.orphans.modify address change }.Owned := by
  cases found : model.orphans.get? address with
  | none =>
    rw [SortedMap.modify_eq_self fun window present =>
      absurd (present.symm.trans found) (Option.some_ne_none window)]
    exact owned
  | some window =>
    obtain ⟨located, named, plain⟩ := owned.waiting found
    exact owned.change (locates_modify located change) ⟨(kept window).trans named, plain⟩
      fun other different => holding_modify_of_ne model change different

theorem shareFocus (owned : model.Owned) : model.shareFocus.Owned := by
  have told : model.focusWorkspaces.Owned := by
    refine owned.of_holding (holding_mapValues (fun workspace => ?_) model)
    rfl
  exact List.foldlRecOn _ _ told fun _ kept address _ => kept.modifyOrphan address fun _ => rfl

theorem observe (owned : model.Owned) (bar : Bar) (snapshot : Snapshot) :
    (model.observe bar snapshot).Owned := by
  refine shareFocus (owned.of_holding fun address => ?_)
  exact (holding_mapValues (windows_observe bar snapshot) model address :)

/-! ### Announced changes of windows -/

theorem openWindow (owned : model.Owned) {window : Window}
    (plain : plainAddress window.address = window.address) (bar : Bar) :
    (model.openWindow bar window).Owned := by
  rw [Model.openWindow]
  split
  · exact owned
  · exact owned.settle plain bar

theorem moveWindow (owned : model.Owned) {address : String}
    (plain : plainAddress address = address) (bar : Bar) (snapshot : Snapshot)
    (target : String) : (model.moveWindow bar snapshot address target).Owned := by
  rw [Model.moveWindow]
  dsimp only
  split
  · next window found =>
    refine (owned.withdraw address).settle ?_ bar
    rcases Option.or_eq_some_iff.mp found with withdrawn | ⟨-, reported⟩
    · obtain ⟨origin, taken, rfl⟩ := Option.map_eq_some_iff.mp withdrawn
      obtain ⟨named, isPlain⟩ := owned.address_of_withdraw taken
      show plainAddress origin.address = origin.address
      rw [named, isPlain]
    · obtain ⟨report, -, rfl⟩ := Option.map_eq_some_iff.mp reported
      exact congrArg plainAddress plain
  · exact owned.withdraw address

theorem retitleWindow (owned : model.Owned) (bar : Bar) (snapshot : Snapshot) (address : String)
    (title : Option String) : (model.retitleWindow bar snapshot address title).Owned := by
  rw [Model.retitleWindow]
  split
  · next key _ indexed _ =>
    obtain ⟨place, located, fits⟩ := owned.located address
    have owner := located.owner
    rw [indexed] at owner
    cases place with
    | shown shownKey former =>
      rw [Owner.workspace.inj (Option.some.inj owner)]
      exact owned.change (locates_setText located _) fits
        fun other different => holding_setText_of_ne model shownKey _ different
    | nowhere => cases owner
    | waiting window => cases owner
  · split
    · refine owned.modifyOrphan address fun window => ?_
      rw [Window.retitle?]
      split <;> rfl
    · exact owned
  · exact owned

theorem markUrgent (owned : model.Owned) (snapshot : Snapshot) (address : String) :
    (model.markUrgent snapshot address).Owned := by
  rw [Model.markUrgent]
  split
  · exact owned.update fun _ _ => rfl
  · exact owned

theorem applyWindowChange (owned : model.Owned) (bar : Bar) (snapshot : Snapshot)
    {change : WindowChange} (addressed : change.IsAddressed) :
    (model.applyWindowChange bar snapshot change).Owned := by
  cases change with
  | opened address target windowClass title =>
    refine owned.openWindow ?_ bar
    exact (addressed address rfl).plainAddress_plainAddress
  | closed address => exact owned.withdraw _
  | moved address target =>
    exact owned.moveWindow (addressed address rfl).plainAddress_plainAddress bar snapshot target
  | retitled address title => exact owned.retitleWindow ..
  | urgent address => exact owned.markUrgent ..
  | focused address =>
    refine shareFocus (owned.of_holding fun other => ?_)
    rfl

theorem applyWindowChanges (owned : model.Owned) (bar : Bar) (snapshot : Snapshot)
    {changes : List WindowChange} (addressed : ∀ change ∈ changes, change.IsAddressed) :
    (model.applyWindowChanges bar snapshot changes).Owned :=
  List.foldlRecOn _ _ owned fun _ kept change member =>
    kept.applyWindowChange bar snapshot (addressed change member)

theorem growOrphan (owned : model.Owned) (bar : Bar) (address : String) :
    (model.growOrphan bar address).Owned := by
  rw [Model.growOrphan]
  split
  · exact owned
  · next window found =>
    split
    · exact owned.change (locates_forget (owned.waiting found).1) trivial
        fun other different => holding_forget_of_ne model different
    · exact owned.modifyOrphan address fun _ => rfl

theorem growOrphans (owned : model.Owned) (bar : Bar) (addresses : List String) :
    (model.growOrphans bar addresses).Owned :=
  List.foldlRecOn _ _ owned fun _ kept address _ => kept.growOrphan bar address

end Owned

/-! ### Ticks -/

/-- Workspaces with identities of their own, and windows with one owner each. -/
structure Sound (model : Model) : Prop where
  identified : model.Identified
  owned : model.Owned

namespace Sound

variable {model : Model}

theorem remove (sound : model.Sound) (snapshot : Snapshot) (key : Nat) :
    (model.remove snapshot key).Sound :=
  ⟨sound.identified.remove snapshot key, sound.owned.remove snapshot key⟩

theorem ensure (sound : model.Sound) {snapshot : Snapshot} (addressed : snapshot.IsAddressed)
    (bar : Bar) (report : ReportedWorkspace) : (model.ensure bar snapshot report).Sound :=
  ⟨sound.identified.ensure bar snapshot report,
    sound.owned.ensure sound.identified addressed bar report⟩

theorem addDeclared (sound : model.Sound) (bar : Bar) (raw : String) :
    (model.addDeclared bar raw).Sound :=
  ⟨sound.identified.addDeclared bar raw, sound.owned.addDeclared sound.identified bar raw⟩

theorem addAllDeclared (sound : model.Sound) (bar : Bar) : (model.addAllDeclared bar).Sound :=
  List.foldlRecOn _ _ sound fun _ kept raw _ => kept.addDeclared bar raw

/-- Every step of the work on workspaces leaves a model sound. -/
theorem stepwise {snapshot : Snapshot} (addressed : snapshot.IsAddressed) (bar : Bar) :
    Stepwise bar snapshot fun before after => before.Sound → after.Sound where
  refl _ := id
  trans earlier later sound := later (earlier sound)
  replace present keyed same windows _ sound :=
    ⟨sound.identified.replace present keyed same, sound.owned.replace present windows⟩
  claim model key sound :=
    ⟨sound.identified.of_outline (outline_claim bar key model), sound.owned.claim bar key⟩
  remove _ key sound := sound.remove snapshot key
  ensure _ report sound := sound.ensure addressed bar report
  declare _ raw sound := sound.addDeclared bar raw

theorem align (sound : model.Sound) {snapshot : Snapshot} (addressed : snapshot.IsAddressed)
    (bar : Bar) (excluded : List String) : (model.align bar snapshot excluded).Sound :=
  (stepwise addressed bar).align excluded model sound

/-- The model that the changes of windows in a backlog find is as sound as the one before. -/
theorem beforeWindowChanges (sound : model.Sound) {snapshot : Snapshot}
    (addressed : snapshot.IsAddressed) (bar : Bar) (changes : List WorkspaceChange) :
    ((((model.removeDestroyed snapshot changes).applyChanges bar snapshot changes).align bar
      snapshot (changes.filterMap destroyedName?)).addAllDeclared bar).Sound :=
  (stepwise addressed bar).beforeWindowChanges changes model sound

theorem catchUp (sound : model.Sound) {snapshot : Snapshot} (addressed : snapshot.IsAddressed)
    (bar : Bar) {backlog : Backlog}
    (changes : ∀ change ∈ backlog.windows, change.IsAddressed) :
    (Tracker.catchUp bar snapshot backlog model).Owned :=
  ((sound.beforeWindowChanges addressed bar backlog.workspaces).owned.applyWindowChanges bar
    snapshot changes).growOrphans bar model.orphans.keys

theorem applyWindowChange (sound : model.Sound) (bar : Bar) (snapshot : Snapshot)
    {change : WindowChange} (addressed : change.IsAddressed) :
    (model.applyWindowChange bar snapshot change).Sound :=
  ⟨sound.identified.of_outline (outline_applyWindowChange ..),
    sound.owned.applyWindowChange bar snapshot addressed⟩

theorem applyWindowChanges (sound : model.Sound) (bar : Bar) (snapshot : Snapshot)
    {changes : List WindowChange} (addressed : ∀ change ∈ changes, change.IsAddressed) :
    (model.applyWindowChanges bar snapshot changes).Sound :=
  List.foldlRecOn _ _ sound fun _ kept change member =>
    kept.applyWindowChange bar snapshot (addressed change member)

/-- A model without workspaces and windows is sound whatever keys have been given out. -/
theorem cleared (model : Model) :
    { model with
      workspaces := SortedMap.empty
      owners := SortedMap.empty
      orphans := SortedMap.empty }.Sound where
  identified := identified_cleared model
  owned := ⟨fun _ => ⟨.nowhere, locates_iff.mpr ⟨rfl, rfl, fun _ => rfl⟩, trivial⟩⟩

theorem startOver {snapshot : Snapshot} (addressed : snapshot.IsAddressed) (bar : Bar)
    (model : Model) : (model.startOver bar snapshot).Sound :=
  ((cleared model).align addressed bar []).addAllDeclared bar

theorem nextModel {tracker : Tracker} (sound : tracker.model.Sound) {snapshot : Snapshot}
    (addressed : snapshot.IsAddressed)
    (changes : ∀ change ∈ tracker.backlog.windows, change.IsAddressed) :
    (tracker.nextModel snapshot).Sound := by
  refine ⟨sound.identified.nextModel snapshot, ?_⟩
  rw [Tracker.nextModel]
  split
  · exact (sound.catchUp addressed tracker.bar changes).observe ..
  · exact (startOver addressed tracker.bar tracker.model).owned.observe ..

end Sound

end Model

/-! ### Runs -/

/-- What waits once another event has come in is what has waited before and that event. -/
theorem Backlog.mem_windows_push {backlog : Backlog} {event : Event} {change : WindowChange}
    (member : change ∈ (backlog.push event).windows) :
    change ∈ backlog.windows ∨ event = .window change := by
  cases event with
  | window announced =>
    rcases List.mem_append.mp member with old | new
    · exact Or.inl old
    · rw [List.mem_singleton.mp new]
      exact Or.inr rfl
  | _ => exact Or.inl member

theorem Tracker.AreAddressed.snapshot {inputs : List Input} (addressed : AreAddressed inputs)
    {snapshot : Snapshot} (member : .snapshot snapshot ∈ inputs) : snapshot.IsAddressed :=
  fun report reported =>
    addressed (.snapshot snapshot) member report.address (List.mem_map_of_mem reported)

/-- At the end of a run with addresses as the compositor writes them every window has one owner,
and every change of a window that waits has such an address. -/
theorem Tracker.sound_run [Pattern.Engine] (config : BarConfig) {inputs : List Input}
    (addressed : AreAddressed inputs) :
    (run config inputs).model.Sound ∧
      ∀ change ∈ (run config inputs).backlog.windows, change.IsAddressed := by
  refine run_induction
    (motive := fun tracker => tracker.model.Sound ∧
      ∀ change ∈ tracker.backlog.windows, change.IsAddressed)
    ⟨⟨Model.identified_empty, Model.owned_empty⟩, fun _ member => absurd member List.not_mem_nil⟩
    fun tracker ⟨sound, waiting⟩ input member => ?_
  have inputAddressed := addressed input member
  cases input with
  | event event =>
    refine ⟨sound, fun change changeMember => ?_⟩
    rcases Backlog.mem_windows_push changeMember with old | rfl
    · exact waiting change old
    · intro address spoken
      exact inputAddressed address (Option.mem_toList.mpr spoken)
  | snapshot snapshot =>
    exact ⟨sound.nextModel (addressed.snapshot member) waiting,
      fun _ changeMember => absurd changeMember List.not_mem_nil⟩

end Deskbar
