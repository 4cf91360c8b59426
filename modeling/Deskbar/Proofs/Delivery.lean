/-
This file shows what becomes of the changes of windows that have waited for a tick. A tick carries
them out in the order in which they were announced, and none of them touches a window that it is
not about. The last one that opens, closes or moves a window therefore decides whether the window is
known afterwards, and nothing that the tick does later takes a window away that was opened in it.

The first tick, and one after the compositor has read its configuration again, start over from the
snapshot. They carry out no change, and know the windows that the snapshot lists and no other ones.
-/

import Deskbar.Proofs.Journey

namespace Deskbar

/-- Whether a change opens, closes or moves the window with an address. -/
def WindowChange.places (address : String) : WindowChange → Bool
  | .opened other _ _ _ => plainAddress other = address
  | .closed other => plainAddress other = address
  | .moved other _ => plainAddress other = address
  | .retitled _ _ => false
  | .urgent _ => false
  | .focused _ => false

namespace Model

/-- Whether a window is on a workspace or waits for one. -/
def Knows (model : Model) (address : String) : Prop :=
  (∃ key text, model.textOn? key address = some text) ∨
    ∃ window, model.orphans.get? address = some window

/-- In an owned model the windows that are known are those that the index names. -/
theorem Owned.knows_iff {model : Model} (owned : model.Owned) (address : String) :
    model.Knows address ↔ (model.owners.get? address).isSome = true := by
  obtain ⟨place, located, -⟩ := owned.located address
  rw [located.owner, Knows, located.orphan]
  simp only [located.text]
  cases place with
  | nowhere => simp [Place.holding]
  | waiting window => simp [Place.holding]
  | shown key text => simp [Place.holding]

/-! ### Changes of other windows -/

section Elsewhere

variable {model : Model} {address : String}

theorem owners_shareFocus (model : Model) : model.shareFocus.owners = model.owners := by
  refine foldl_view owners (fun _ _ => ?_) model.orphans.keys model.focusWorkspaces
  rfl

theorem owners_retitleWindow (bar : Bar) (snapshot : Snapshot) (retitled : String)
    (title : Option String) :
    (model.retitleWindow bar snapshot retitled title).owners = model.owners := by
  rw [retitleWindow]
  split
  · rfl
  · split <;> rfl
  · rfl

/-- A change leaves the owner of every window that it does not place. It may give the window another
title, but nothing else moves it. -/
theorem get?_owners_applyWindowChange (owned : model.Owned) (bar : Bar) (snapshot : Snapshot)
    {change : WindowChange} (addressed : change.IsAddressed)
    (elsewhere : change.places address = false) :
    (model.applyWindowChange bar snapshot change).owners.get? address =
      model.owners.get? address := by
  cases touched : change.touches address with
  | false =>
    obtain ⟨place, located, -⟩ := owned.located address
    obtain ⟨next, here, told⟩ :=
      exists_locates_applyWindowChange owned bar snapshot addressed touched located
    rw [here.owner, told.owner, located.owner]
  | true =>
    cases change with
    | retitled other title => exact congrArg (SortedMap.get? · address) (owners_retitleWindow ..)
    | opened other target windowClass title => cases touched.symm.trans elsewhere
    | closed other => cases touched.symm.trans elsewhere
    | moved other target => cases touched.symm.trans elsewhere
    | urgent other => cases touched
    | focused other => cases touched

theorem get?_owners_applyWindowChanges (owned : model.Owned) (bar : Bar) (snapshot : Snapshot)
    {changes : List WindowChange} (addressed : ∀ change ∈ changes, change.IsAddressed)
    (elsewhere : ∀ change ∈ changes, change.places address = false) :
    (model.applyWindowChanges bar snapshot changes).owners.get? address =
      model.owners.get? address := by
  refine (List.foldlRecOn changes (applyWindowChange bar snapshot)
    (motive := fun next => Owned next ∧ next.owners.get? address = model.owners.get? address)
    ⟨owned, rfl⟩ ?_).2
  intro next ⟨kept, same⟩ change member
  refine ⟨kept.applyWindowChange bar snapshot (addressed change member), ?_⟩
  exact (get?_owners_applyWindowChange kept bar snapshot (addressed change member)
    (elsewhere change member)).trans same

end Elsewhere

/-! ### The change of a window -/

section Here

variable {model : Model}

theorem get?_owners_withdraw (owned : model.Owned) (address : String) :
    (model.withdraw address).2.owners.get? address = none := by
  obtain ⟨place, located, -⟩ := owned.located address
  exact (locates_withdraw located).owner

/-- A window that is opened and not left out has an owner. -/
theorem isSome_owners_openWindow (owned : model.Owned) (identified : model.Identified) (bar : Bar)
    {window : Window} (shown : window.isLeftOut bar.rewriter = false) :
    ((model.openWindow bar window).owners.get? window.address).isSome = true := by
  obtain ⟨place, located, -⟩ := owned.located window.address
  rw [openWindow]
  split
  · next replayed =>
    rw [isReplay] at replayed
    cases owner : model.owners.get? window.address with
    | none =>
      rw [owner] at replayed
      cases replayed
    | some _ => rfl
  · rw [settle]
    split
    · next workspace found =>
      have placed := locates_place bar located (identified.named? found)
      rw [placed.owner, Window.placeOn, shown]
      rfl
    · rw [(locates_orphan located).owner]
      rfl

end Here

/-! ### The rest of a tick -/

theorem owners_observe (bar : Bar) (snapshot : Snapshot) (model : Model) :
    (model.observe bar snapshot).owners = model.owners := owners_shareFocus _

section LastChange

variable {model : Model} {snapshot : Snapshot} {backlog : Backlog} {address : String}
  {before later : List WindowChange} {change : WindowChange}

/-- The last change that places a window decides who has it when all changes have been carried
out. -/
theorem exists_before_last (sound : model.Sound) (bar : Bar) (snapshot : Snapshot)
    (addressed : ∀ other ∈ before ++ change :: later, other.IsAddressed)
    (last : ∀ other ∈ later, other.places address = false) :
    ∃ next : Model, next.Sound ∧
      (model.applyWindowChanges bar snapshot (before ++ change :: later)).owners.get? address =
        (next.applyWindowChange bar snapshot change).owners.get? address := by
  have earlierAddressed : ∀ other ∈ before, other.IsAddressed :=
    fun other member => addressed other (List.mem_append_left _ member)
  have changeAddressed : change.IsAddressed :=
    addressed change (List.mem_append_right _ List.mem_cons_self)
  have laterAddressed : ∀ other ∈ later, other.IsAddressed :=
    fun other member => addressed other (List.mem_append_right _ (List.mem_cons_of_mem _ member))
  have next : (model.applyWindowChanges bar snapshot before).Sound :=
    sound.applyWindowChanges bar snapshot earlierAddressed
  refine ⟨_, next, ?_⟩
  rw [applyWindowChanges, List.foldl_append, List.foldl_cons]
  exact get?_owners_applyWindowChanges (next.owned.applyWindowChange bar snapshot changeAddressed)
    bar snapshot laterAddressed last

theorem get?_owners_catchUp_of_closed (sound : model.Sound) (bar : Bar)
    (snapshotAddressed : snapshot.IsAddressed)
    (addressed : ∀ change ∈ backlog.windows, change.IsAddressed) {closed : String}
    (listed : backlog.windows = before ++ .closed closed :: later)
    (last : ∀ other ∈ later, other.places (plainAddress closed) = false) :
    (Tracker.catchUp bar snapshot backlog model).owners.get? (plainAddress closed) = none := by
  have ready := sound.beforeWindowChanges snapshotAddressed bar backlog.workspaces
  rw [listed] at addressed
  obtain ⟨next, nextSound, decided⟩ := exists_before_last ready bar snapshot addressed last
  rw [Tracker.catchUp, get?_owners_growOrphans bar model.orphans.keys_nodup, listed, decided]
  split
  · rfl
  · exact get?_owners_withdraw nextSound.owned (plainAddress closed)

theorem isSome_owners_catchUp_of_opened (sound : model.Sound) (bar : Bar)
    (snapshotAddressed : snapshot.IsAddressed)
    (addressed : ∀ change ∈ backlog.windows, change.IsAddressed)
    {opened target windowClass title : String}
    (listed : backlog.windows = before ++ .opened opened target windowClass title :: later)
    (last : ∀ other ∈ later, other.places (plainAddress opened) = false)
    (shown : (Window.ofIdentity target opened windowClass title).isLeftOut bar.rewriter = false)
    (fresh : model.orphans.get? (plainAddress opened) = none) :
    ((Tracker.catchUp bar snapshot backlog model).owners.get?
      (plainAddress opened)).isSome = true := by
  have ready := sound.beforeWindowChanges snapshotAddressed bar backlog.workspaces
  rw [listed] at addressed
  obtain ⟨next, nextSound, decided⟩ := exists_before_last ready bar snapshot addressed last
  rw [Tracker.catchUp, get?_owners_growOrphans bar model.orphans.keys_nodup, listed, decided]
  rw [if_neg fun both => SortedMap.get?_eq_none_iff.mp fresh both.1]
  exact isSome_owners_openWindow nextSound.owned nextSound.identified bar shown

end LastChange

/-! ### Starting over -/

/-- No window waits, and the windows that the index names are in the snapshot. -/
structure Listed (snapshot : Snapshot) (model : Model) : Prop where
  none : ∀ address, model.orphans.get? address = none
  reported : ∀ {address owner}, model.owners.get? address = some owner →
    ∃ report ∈ snapshot.windows, plainAddress report.address = address

namespace Listed

variable {model : Model} {snapshot : Snapshot}

theorem place (listed : model.Listed snapshot) (bar : Bar) (key : Nat) {window : Window}
    (reported : ∃ report ∈ snapshot.windows, plainAddress report.address = window.address) :
    (model.place bar key window).Listed snapshot := by
  refine ⟨fun address =>
    (Sheds.place bar key window model).dwindles.get?_eq_none (listed.none address),
    fun {address owner} found => ?_⟩
  by_cases same : address = window.address
  · rw [same]
    exact reported
  · have kept := congrArg Holding.owner (holding_place_of_ne model bar key window same)
    exact listed.reported (kept.symm.trans found)

theorem gather (listed : model.Listed snapshot) (bar : Bar) (key : Nat) (id : Int) :
    (model.gather bar snapshot key id).Listed snapshot := by
  refine List.foldlRecOn _ _ listed fun next kept report member => ?_
  rw [gatherOne]
  split
  · exact kept
  · exact kept.place bar key ⟨report, List.mem_of_mem_filter member, rfl⟩

theorem claim (listed : model.Listed snapshot) (bar : Bar) (key : Nat) :
    (model.claim bar key).Listed snapshot := by
  have unclaimed : ∀ reference, model.waitingFor reference = [] := by
    intro reference
    rw [waitingFor, List.map_eq_nil_iff, List.filter_eq_nil_iff]
    intro entry waits
    cases (listed.none entry.1).symm.trans (SortedMap.get?_eq_some_iff.mpr waits)
  rw [Model.claim]
  split
  · exact listed
  · rw [unclaimed]
    exact listed

theorem ensure (listed : model.Listed snapshot) (bar : Bar) (report : ReportedWorkspace) :
    (model.ensure bar snapshot report).Listed snapshot := by
  rw [Model.ensure]
  split
  · split
    · next workspace _ =>
      have adopted : (model.update workspace.key fun workspace =>
          workspace.adopt report).Listed snapshot := ⟨listed.none, listed.reported⟩
      split
      · exact adopted.claim ..
      · exact (adopted.gather ..).claim ..
    · have created : (model.create bar report).Listed snapshot := ⟨listed.none, listed.reported⟩
      exact (created.gather ..).claim ..
  · exact listed

theorem addAllDeclared (listed : model.Listed snapshot) (bar : Bar) :
    (model.addAllDeclared bar).Listed snapshot := by
  refine List.foldlRecOn _ _ listed fun next kept raw _ => ?_
  rw [addDeclared]
  dsimp only
  split
  · exact ⟨kept.none, kept.reported⟩
  · exact kept

end Listed

/-- A model that starts over knows the windows of its snapshot and no other ones. -/
theorem listed_startOver (model : Model) (bar : Bar) (snapshot : Snapshot) :
    (model.startOver bar snapshot).Listed snapshot := by
  refine Listed.addAllDeclared ?_ bar
  refine List.foldlRecOn _ _ ?_ fun next kept report _ => kept.ensure bar report
  exact ⟨fun _ => rfl, fun found => absurd found.symm (Option.some_ne_none _)⟩

theorem Listed.observe {model : Model} {snapshot : Snapshot} (listed : model.Listed snapshot)
    (bar : Bar) : (model.observe bar snapshot).Listed snapshot := by
  refine ⟨fun address => ?_, fun {address owner} found => ?_⟩
  · exact (Dwindles.observe bar snapshot model).get?_eq_none (listed.none address)
  · rw [owners_observe] at found
    exact listed.reported found

end Model

/-! ### Runs -/

namespace Tracker

/-- Whether the next tick starts over from its snapshot. -/
def startsOver (tracker : Tracker) : Bool := !tracker.loaded || tracker.backlog.configChanged

theorem nextModel_of_startsOver {tracker : Tracker} (startsOver : tracker.startsOver = true)
    (snapshot : Snapshot) :
    tracker.nextModel snapshot =
      (tracker.model.startOver tracker.bar snapshot).observe tracker.bar snapshot := by
  have fresh : (tracker.loaded && !tracker.backlog.configChanged) = false := by
    rw [← Bool.not_inj_iff, Bool.not_and, Bool.not_not]
    exact startsOver
  rw [nextModel, fresh]
  rfl

theorem nextModel_of_not_startsOver {tracker : Tracker} (carriesOn : tracker.startsOver = false)
    (snapshot : Snapshot) :
    tracker.nextModel snapshot =
      (catchUp tracker.bar snapshot tracker.backlog tracker.model).observe tracker.bar
        snapshot := by
  have loaded : (tracker.loaded && !tracker.backlog.configChanged) = true := by
    rw [← Bool.not_inj_iff, Bool.not_and, Bool.not_not]
    exact carriesOn
  rw [nextModel, loaded]
  rfl

theorem owners_nextModel_of_not_startsOver {tracker : Tracker}
    (carriesOn : tracker.startsOver = false) (snapshot : Snapshot) :
    (tracker.nextModel snapshot).owners =
      (catchUp tracker.bar snapshot tracker.backlog tracker.model).owners := by
  rw [nextModel_of_not_startsOver carriesOn]
  exact Model.owners_observe ..

/-- After every run with addresses as the compositor writes them, a tick that does not start over
loses no change of a window. A window is not known when the last change that places it has closed
it, and is known when that change has opened it, with something to show, and it did not wait before
the tick. A tick that starts over does the same whatever changes of windows have waited for it, and
knows no window that its snapshot does not list. -/
theorem delivered_tick [Pattern.Engine] (config : BarConfig) {inputs : List Input}
    (addressed : AreAddressed inputs)
    {snapshot : Snapshot} (snapshotAddressed : snapshot.IsAddressed) :
    let tracker := run config inputs
    let after := (tracker.tick snapshot).model
    (tracker.startsOver = false →
      (∀ before closed later, tracker.backlog.windows = before ++ .closed closed :: later →
        (∀ other ∈ later, other.places (plainAddress closed) = false) →
        after.owners.get? (plainAddress closed) = none ∧ ¬after.Knows (plainAddress closed)) ∧
      ∀ before opened target windowClass title later,
        tracker.backlog.windows = before ++ .opened opened target windowClass title :: later →
        (∀ other ∈ later, other.places (plainAddress opened) = false) →
        (Window.ofIdentity target opened windowClass title).isLeftOut tracker.bar.rewriter = false →
        tracker.model.orphans.get? (plainAddress opened) = none →
        after.Knows (plainAddress opened)) ∧
    (tracker.startsOver = true →
      (∀ windows, ({ tracker with
        backlog := { tracker.backlog with windows := windows } }.tick snapshot).model = after) ∧
      ∀ address, after.Knows address →
        ∃ report ∈ snapshot.windows, plainAddress report.address = address) := by
  intro tracker after
  obtain ⟨sound, waiting⟩ := sound_run config addressed
  have owned : after.Owned := (sound.nextModel snapshotAddressed waiting).owned
  refine ⟨fun carriesOn => ?_, fun startsOver => ⟨fun windows => ?_, fun address known => ?_⟩⟩
  · have caughtUp : after.owners =
        (catchUp tracker.bar snapshot tracker.backlog tracker.model).owners :=
      owners_nextModel_of_not_startsOver carriesOn snapshot
    constructor
    · intro before closed later listed last
      have unowned := Model.get?_owners_catchUp_of_closed sound tracker.bar snapshotAddressed
        waiting listed last
      rw [← caughtUp] at unowned
      refine ⟨unowned, fun known => ?_⟩
      rw [owned.knows_iff, unowned] at known
      cases known
    · intro before opened target windowClass title later listed last shown fresh
      rw [owned.knows_iff, caughtUp]
      exact Model.isSome_owners_catchUp_of_opened sound tracker.bar snapshotAddressed waiting listed
        last shown fresh
  · have otherStartsOver : ({ tracker with
        backlog := { tracker.backlog with windows := windows } } : Tracker).startsOver = true :=
      startsOver
    exact (nextModel_of_startsOver otherStartsOver snapshot).trans
      (nextModel_of_startsOver startsOver snapshot).symm
  · rw [owned.knows_iff] at known
    obtain ⟨owner, found⟩ := Option.isSome_iff_exists.mp known
    have listed := (Model.listed_startOver tracker.model tracker.bar snapshot).observe tracker.bar
    rw [← nextModel_of_startsOver startsOver snapshot] at listed
    exact listed.reported found

/-- A window is closed and another one opened after a tick, and the next snapshot is older. -/
def closingRun : List Input :=
  [.snapshot sampleSnapshot, .event (.window (.closed "cd")),
    .event (.window (.opened "ab" "2" "editor" "notes"))]

theorem areAddressed_closingRun : AreAddressed closingRun := by
  have addresses : IsAddress "0xcd" ∧ IsAddress "cd" ∧ IsAddress "ab" :=
    ⟨isAddress_reported, isAddress_plain, isAddress_announced⟩
  simpa [AreAddressed, closingRun, sampleSnapshot, Input.addresses, WindowChange.address?] using
    addresses

theorem isAddressed_sampleSnapshot : sampleSnapshot.IsAddressed := by
  intro report member
  rw [List.mem_singleton.mp member]
  exact isAddress_reported

theorem delivered_tick_closingRun :
    AreAddressed closingRun ∧ sampleSnapshot.IsAddressed ∧
      (run {} closingRun).startsOver = false ∧
      (run {} closingRun).model.Knows "cd" ∧
      ¬((run {} closingRun).tick sampleSnapshot).model.Knows "cd" ∧
      ((run {} closingRun).tick sampleSnapshot).model.Knows "ab" := by
  have waiting : (run {} closingRun).backlog.windows =
      [.closed "cd", .opened "ab" "2" "editor" "notes"] := by decide
  have delivered := (delivered_tick {} areAddressed_closingRun isAddressed_sampleSnapshot).1
    (by decide)
  have lost := delivered.1 [] "cd" [.opened "ab" "2" "editor" "notes"] waiting (by decide)
  have kept := delivered.2 [.closed "cd"] "ab" "2" "editor" "notes" [] waiting (by decide)
    (by decide) (by decide)
  exact ⟨areAddressed_closingRun, isAddressed_sampleSnapshot, by decide,
    Or.inl ⟨1, "?", by decide⟩, lost.2, kept⟩

/-- A window is opened before the first tick. -/
def openingRun : List Input := [.event (.window (.opened "cd" "9" "term" "x"))]

/-- A report of a window under an address with two leads. -/
def ledSnapshot : Snapshot :=
  { workspaces := [{ id := 1, name := "1", windows := 1 }]
    windows := [{ address := "0x0xab", windowClass := "term", workspace := ⟨1, "1"⟩ }] }

/-- A window is closed, and the one with two leads in front of the same digits is moved. -/
def ledRun : List Input :=
  [.snapshot ledSnapshot, .event (.window (.closed "ab")), .event (.window (.moved "0x0xab" "1"))]

/-- A tick that starts over loses a window that was opened, and knows one that was closed if its
snapshot still lists it. A tick that does not start over loses no change, but under an address with
a second lead a window that was closed is known again. -/
theorem not_delivered_startOver :
    ((run {} openingRun).backlog.windows = [.opened "cd" "9" "term" "x"] ∧
      (Window.ofIdentity "9" "cd" "term" "x").isLeftOut (Bar.ofConfig {}).rewriter = false ∧
      (run {} openingRun).model.orphans.get? "cd" = none ∧
      ¬((run {} openingRun).tick {}).model.Knows "cd") ∧
    ((run {} [.event (.window (.closed "cd"))]).backlog.windows = [.closed "cd"] ∧
      ((run {} [.event (.window (.closed "cd"))]).tick sampleSnapshot).model.Knows "cd") ∧
    (run {} ledRun).startsOver = false ∧
      (run {} ledRun).backlog.windows = [.closed "ab", .moved "0x0xab" "1"] ∧
      (WindowChange.moved "0x0xab" "1").places "ab" = false ∧
      ((run {} ledRun).tick ledSnapshot).model.Knows "ab" := by
  have empty : ((run {} openingRun).tick {}).model = Model.empty := by decide
  refine ⟨⟨by decide, by decide, by decide, ?_⟩, ⟨by decide, Or.inl ⟨1, "?", by decide⟩⟩,
    by decide, by decide, by decide, Or.inl ⟨1, "?", by decide⟩⟩
  rw [empty]
  rintro (⟨key, text, found⟩ | ⟨window, found⟩)
  · cases found
  · cases found

end Tracker

end Deskbar
