/-
This file says under which addresses windows are held. An address loses the lead that replies put in
front of it on its way in, and it is treated as if it had just come in whenever its window is looked
up, taken from a workspace or left behind by one. The latter changes nothing as long as no address
comes in with a second lead behind its lead: then every address under which a window is shown, waits
or has an owner is one without a lead, be it an address as the compositor writes it or any other
text.

An address with two leads keeps one of them on its way in, and loses it later. Its window then goes
by the address of another one.
-/

import Deskbar.Proofs.Appearance
import Deskbar.Proofs.References

namespace Deskbar

/-! ### Leads -/

/-- Whether an address begins with a lead and another one behind it. -/
def IsLedTwice (address : String) : Prop := ['0', 'x', '0', 'x'] <+: address.toList

instance (address : String) : Decidable (IsLedTwice address) :=
  inferInstanceAs (Decidable (_ <+: _))

theorem plainAddress_eq_self_iff {address : String} :
    plainAddress address = address ↔ ¬['0', 'x'] <+: address.toList := by
  rw [plainAddress]
  split
  · next rest found =>
    have led := Text.afterLead_eq_some_iff.mp found
    exact iff_of_false (ofList_ne_of_led led (by decide)) (not_not_intro ⟨rest, led.symm⟩)
  · next unled => exact iff_of_true rfl (Text.afterLead_eq_none_iff.mp unled)

theorem ne_of_led {address other : String} (led : plainAddress address ≠ address)
    (plain : plainAddress other = other) : address ≠ other := by
  rintro rfl
  exact led plain

/-- Taking leads away once more changes nothing unless there are two of them. -/
theorem plainAddress_plainAddress_iff {address : String} :
    plainAddress (plainAddress address) = plainAddress address ↔ ¬IsLedTwice address := by
  rw [plainAddress_eq_self_iff, not_iff_not, plainAddress, IsLedTwice]
  split
  · next rest found =>
    rw [String.toList_ofList, Text.afterLead_eq_some_iff.mp found]
    exact (List.prefix_append_right_inj ['0', 'x']).symm
  · next unled =>
    have single := Text.afterLead_eq_none_iff.mp unled
    exact iff_of_false single fun twice => single ((List.prefix_append _ ['0', 'x']).trans twice)

namespace Tracker.Input

/-- Whether no address that an input speaks of begins with two leads. -/
def IsLedOnce (input : Tracker.Input) : Prop := ∀ address ∈ input.addresses, ¬IsLedTwice address

instance (input : Tracker.Input) : Decidable input.IsLedOnce :=
  inferInstanceAs (Decidable (∀ address ∈ input.addresses, ¬IsLedTwice address))

theorem IsLedOnce.plain {change : WindowChange} (once : IsLedOnce (.event (.window change)))
    {address : String} (about : change.address? = some address) :
    plainAddress (plainAddress address) = plainAddress address :=
  plainAddress_plainAddress_iff.mpr (once address (Option.mem_toList.mpr about))

end Tracker.Input

namespace Model

/-! ### The invariant -/

/-- What a window may look like does not matter here, but its address has no lead. -/
def Unled (address : String) (_ : Window.Appearance) : Prop := plainAddress address = address

theorem respects_unled (rewriter : Rewriter) : rewriter.Respects Unled where
  plain unled := congrArg plainAddress unled
  resolved _ unled := unled

theorem allowed_unled {snapshot : Snapshot} (once : Tracker.Input.IsLedOnce (.snapshot snapshot)) :
    snapshot.Allowed Unled := fun report member =>
  plainAddress_plainAddress_iff.mpr (once report.address (List.mem_map_of_mem member))

/-- Every address under which a window is shown, waits or has an owner has no lead, and a window
waits under its own address. -/
structure HoldsUnled (model : Model) : Prop extends model.Looks Unled where
  indexed : ∀ {address owner}, model.owners.get? address = some owner →
    plainAddress address = address

/-- Whoever is asked for a held address answers for that address: the lookup finds its owner, a
window that is taken from its owner has the address that it was asked for by, and removal of a
workspace leaves everything as it was that is held about an address without a text there. -/
structure Unmistaken (model : Model) : Prop where
  owner : ∀ {address owner}, model.owners.get? address = some owner →
    model.ownerOf? address = some owner
  withdrawn : ∀ {address window}, (model.withdraw address).1 = some window →
    window.address = address
  removed : ∀ snapshot {key address}, model.textOn? key address = none →
    (model.remove snapshot key).holding address = model.holding address

namespace HoldsUnled

variable {model : Model}

theorem of_owners {after : Model} (unled : model.HoldsUnled) (looks : after.Looks Unled)
    (kept : ∀ address, plainAddress address ≠ address →
      after.owners.get? address = model.owners.get? address) : after.HoldsUnled :=
  ⟨looks, fun {address _} found => by_contra fun led =>
    led (unled.indexed ((kept address led).symm.trans found))⟩

/-- Removal of a workspace leaves the windows that are not on it where they are. -/
theorem holding_remove (unled : model.HoldsUnled) (snapshot : Snapshot) {key : Nat}
    {address : String} (absent : model.textOn? key address = none) :
    (model.remove snapshot key).holding address = model.holding address := by
  cases present : model.workspaces.get? key with
  | none => rw [remove_of_absent snapshot present]
  | some workspace =>
    refine holding_remove_of_elsewhere snapshot present (fun other member => ?_) ?_
    · obtain ⟨text, here⟩ := SortedMap.mem_keys_iff.mp member
      exact unled.shown ((textOn?_of_get? present other).trans here)
    · rwa [← textOn?_of_get? present]

theorem unmistaken (unled : model.HoldsUnled) : model.Unmistaken where
  owner indexed := by rwa [ownerOf?, unled.indexed indexed]
  withdrawn {address window} withdrawn := by
    rw [Model.withdraw] at withdrawn
    split at withdrawn
    · cases withdrawn
    · next key indexed =>
      dsimp only at withdrawn
      split at withdrawn
      · cases withdrawn
      · obtain ⟨text, -, rfl⟩ := Option.map_eq_some_iff.mp withdrawn
        exact unled.indexed indexed
    · exact (unled.waiting withdrawn).1
  removed snapshot _ _ absent := unled.holding_remove snapshot absent

/-! ### Single windows -/

theorem withdraw (unled : model.HoldsUnled) (address : String) :
    (model.withdraw address).2.HoldsUnled := by
  refine unled.of_owners (unled.toLooks.withdraw address) fun other led => ?_
  by_cases same : other = address
  · subst same
    cases owned : model.owners.get? other with
    | none => rw [Model.withdraw, owned, owned]
    | some owner => exact absurd (unled.indexed owned) led
  · exact congrArg Holding.owner (holding_withdraw_of_ne model same)

theorem orphan (unled : model.HoldsUnled) {window : Window}
    (plain : plainAddress window.address = window.address) : (model.orphan window).HoldsUnled :=
  unled.of_owners (unled.toLooks.orphan plain) fun _ led =>
    congrArg Holding.owner (holding_orphan_of_ne model (ne_of_led led plain))

theorem growOrphans (unled : model.HoldsUnled) (bar : Bar) (addresses : List String) :
    (model.growOrphans bar addresses).HoldsUnled := by
  refine ⟨unled.toLooks.growOrphans bar addresses, ?_⟩
  refine List.foldlRecOn addresses (growOrphan bar)
    (motive := fun next => ∀ {address owner}, next.owners.get? address = some owner →
      plainAddress address = address) unled.indexed
    fun next kept address _ {other owner} found => ?_
  rw [get?_owners_growOrphan] at found
  split at found
  · cases found
  · exact kept found

theorem observe (unled : model.HoldsUnled) (bar : Bar) (snapshot : Snapshot) :
    (model.observe bar snapshot).HoldsUnled := by
  refine ⟨unled.toLooks.observe bar snapshot, ?_⟩
  rw [owners_observe]
  exact unled.indexed

section Bar

variable (bar : Bar)

theorem place (unled : model.HoldsUnled) (key : Nat) {window : Window}
    (plain : plainAddress window.address = window.address) :
    (model.place bar key window).HoldsUnled :=
  unled.of_owners (unled.toLooks.place (respects_unled bar.rewriter) key plain) fun _ led =>
    congrArg Holding.owner (holding_place_of_ne model bar key window (ne_of_led led plain))

theorem settle (unled : model.HoldsUnled) {window : Window}
    (plain : plainAddress window.address = window.address) :
    (model.settle bar window).HoldsUnled := by
  rw [Model.settle]
  split
  · exact unled.place bar _ plain
  · exact unled.orphan plain

theorem claim (unled : model.HoldsUnled) (key : Nat) : (model.claim bar key).HoldsUnled := by
  rw [Model.claim]
  split
  · exact unled
  · refine List.foldlRecOn _ _ unled fun next kept address _ => ?_
    rw [claimOne]
    split
    · exact kept
    · next window found =>
      obtain ⟨rfl, plain⟩ := kept.waiting found
      have forgotten : { next with
          orphans := next.orphans.erase window.address
          owners := next.owners.erase window.address }.HoldsUnled :=
        kept.of_owners (kept.toLooks.of_fewer id (Sheds.erase next.orphans window.address))
          fun _ led => congrArg Holding.owner (holding_forget_of_ne next (ne_of_led led plain))
      exact forgotten.place bar key plain

section Reports

variable {snapshot : Snapshot} (once : Tracker.Input.IsLedOnce (.snapshot snapshot))

include once

theorem gather (unled : model.HoldsUnled) (key : Nat) (id : Int) :
    (model.gather bar snapshot key id).HoldsUnled := by
  refine List.foldlRecOn _ _ unled fun next kept report member => ?_
  rw [gatherOne]
  split
  · exact kept
  · exact kept.place bar key (allowed_unled once report (List.mem_of_mem_filter member))

/-! ### Workspaces -/

theorem ensure (unled : model.HoldsUnled) (report : ReportedWorkspace) :
    (model.ensure bar snapshot report).HoldsUnled := by
  rw [Model.ensure]
  split
  · split
    · next workspace _ =>
      have adopted : (model.update workspace.key fun workspace =>
          workspace.adopt report).HoldsUnled :=
        ⟨unled.toLooks.update fun _ => rfl, unled.indexed⟩
      split
      · exact adopted.claim bar _
      · exact (adopted.gather bar once _ _).claim bar _
    · have created : (model.create bar report).HoldsUnled :=
        ⟨unled.toLooks.insert rfl _ _, unled.indexed⟩
      exact (created.gather bar once _ _).claim bar _
  · exact unled

/-- No step of the work on workspaces brings an address with a lead. -/
theorem stepwise : Stepwise bar snapshot fun before after => before.HoldsUnled →
    after.HoldsUnled where
  refl _ := id
  trans earlier later unled := later (earlier unled)
  replace present keyed same windows focused unled :=
    ⟨(Looks.stepwise (respects_unled bar.rewriter) (allowed_unled once)).replace present keyed same
      windows focused unled.toLooks, unled.indexed⟩
  claim _ key unled := unled.claim bar key
  remove model key unled := by
    refine unled.of_owners (unled.toLooks.remove (respects_unled bar.rewriter) snapshot key)
      fun address led => congrArg Holding.owner (unled.holding_remove snapshot ?_)
    exact Option.eq_none_iff_forall_ne_some.mpr fun text here => led (unled.shown here)
  ensure _ report unled := unled.ensure bar once report
  declare model raw unled := by
    rw [addDeclared]
    dsimp only
    split
    · exact ⟨unled.toLooks.insert rfl _ _, unled.indexed⟩
    · exact unled

end Reports

/-! ### Announced changes of windows -/

theorem moveWindow (unled : model.HoldsUnled) (snapshot : Snapshot)
    {address : String} (plain : plainAddress address = address) (target : String) :
    (model.moveWindow bar snapshot address target).HoldsUnled := by
  rw [Model.moveWindow]
  dsimp only
  split
  · next window found =>
    refine (unled.withdraw address).settle bar ?_
    rcases Option.or_eq_some_iff.mp found with taken | ⟨-, listed⟩
    · obtain ⟨origin, fromOwner, rfl⟩ := Option.map_eq_some_iff.mp taken
      have plainly := unled.toLooks.of_withdrawn (respects_unled bar.rewriter) fromOwner
      exact plainly
    · obtain ⟨report, -, rfl⟩ := Option.map_eq_some_iff.mp listed
      exact congrArg plainAddress plain
  · exact unled.withdraw address

theorem applyWindowChange (unled : model.HoldsUnled) (snapshot : Snapshot) {change : WindowChange}
    (changeOnce : Tracker.Input.IsLedOnce (.event (.window change))) :
    (model.applyWindowChange bar snapshot change).HoldsUnled := by
  cases change with
  | opened address target windowClass title =>
    rw [Model.applyWindowChange, openWindow]
    split
    · exact unled
    · exact unled.settle bar (changeOnce.plain rfl)
  | closed address => exact unled.withdraw _
  | moved address target => exact unled.moveWindow bar snapshot (changeOnce.plain rfl) target
  | retitled address title =>
    refine ⟨unled.toLooks.retitleWindow ⟨fun _ _ _ _ => changeOnce.plain rfl,
      fun _ _ _ _ _ => changeOnce.plain rfl⟩, ?_⟩
    rw [Model.applyWindowChange, owners_retitleWindow]
    exact unled.indexed
  | urgent address =>
    rw [Model.applyWindowChange, markUrgent]
    split
    · exact ⟨unled.toLooks.update fun _ => rfl, unled.indexed⟩
    · exact unled
  | focused address =>
    refine ⟨Looks.shareFocus ⟨unled.shown, unled.waiting⟩, ?_⟩
    rw [Model.applyWindowChange, owners_shareFocus]
    exact unled.indexed

end Bar

/-- No window is held by a model without workspaces and windows. -/
theorem cleared (model : Model) :
    { model with
      workspaces := SortedMap.empty
      owners := SortedMap.empty
      orphans := SortedMap.empty }.HoldsUnled :=
  ⟨Looks.cleared model, fun found => (by cases found)⟩

end HoldsUnled

end Model

/-! ### Runs -/

namespace Tracker

variable {tracker : Tracker} {snapshot : Snapshot}

theorem holdsUnled_midway (unled : tracker.model.HoldsUnled)
    (once : Input.IsLedOnce (.snapshot snapshot)) {done : List WindowChange}
    (doneOnce : ∀ change ∈ done, Input.IsLedOnce (.event (.window change))) :
    (tracker.midway snapshot done).HoldsUnled :=
  List.foldlRecOn done _
    ((Model.HoldsUnled.stepwise tracker.bar once).beforeWindowChanges tracker.backlog.workspaces
      tracker.model unled)
    fun _ kept change member => kept.applyWindowChange tracker.bar snapshot (doneOnce change member)

theorem holdsUnled_nextModel (unled : tracker.model.HoldsUnled)
    (once : Input.IsLedOnce (.snapshot snapshot))
    (waiting : ∀ change ∈ tracker.backlog.windows, Input.IsLedOnce (.event (.window change))) :
    (tracker.nextModel snapshot).HoldsUnled := by
  have stepwise := Model.HoldsUnled.stepwise tracker.bar once
  cases startsOver : tracker.startsOver with
  | true =>
    rw [nextModel_of_startsOver startsOver]
    exact (stepwise.addAllDeclared _ (stepwise.align [] _
      (Model.HoldsUnled.cleared tracker.model))).observe tracker.bar snapshot
  | false =>
    rw [nextModel_of_not_startsOver startsOver]
    exact ((holdsUnled_midway unled once waiting).growOrphans tracker.bar
      tracker.model.orphans.keys).observe tracker.bar snapshot

theorem holdsUnled_run [Pattern.Engine] (config : BarConfig) {inputs : List Input}
    (once : ∀ input ∈ inputs, input.IsLedOnce) :
    (run config inputs).model.HoldsUnled ∧
      ∀ change ∈ (run config inputs).backlog.windows,
        Input.IsLedOnce (.event (.window change)) := by
  refine run_induction
    (motive := fun tracker => tracker.model.HoldsUnled ∧
      ∀ change ∈ tracker.backlog.windows, Input.IsLedOnce (.event (.window change)))
    ⟨Model.HoldsUnled.cleared Model.empty, fun _ member => absurd member List.not_mem_nil⟩
    fun tracker ⟨unled, waiting⟩ input member => ?_
  have inputOnce := once input member
  cases input with
  | event event =>
    refine ⟨unled, fun change changeMember => ?_⟩
    rcases Backlog.mem_windows_push changeMember with old | rfl
    · exact waiting change old
    · exact inputOnce
  | snapshot snapshot =>
    exact ⟨holdsUnled_nextModel unled inputOnce waiting,
      fun _ changeMember => absurd changeMember List.not_mem_nil⟩

/-- When no address in a run begins with two leads, every address that is held at its end has no
lead, whether a window is shown or waits under it or the index names it, and so it is in the middle
of the next tick, whatever changes of windows have been carried out by then. Whoever is asked for
such an address answers for it and for no other one. -/
theorem unled_run [Pattern.Engine] (config : BarConfig) {inputs : List Input}
    (once : ∀ input ∈ inputs, input.IsLedOnce) {snapshot : Snapshot}
    (snapshotOnce : Input.IsLedOnce (.snapshot snapshot)) {done : List WindowChange}
    (doneOnce : ∀ change ∈ done, Input.IsLedOnce (.event (.window change))) :
    let before := (run config inputs).model
    let amid := (run config inputs).midway snapshot done
    (before.HoldsUnled ∧ before.Unmistaken) ∧ amid.HoldsUnled ∧ amid.Unmistaken := by
  intro before amid
  have unled := (holdsUnled_run config once).1
  have unledAmid := holdsUnled_midway unled snapshotOnce doneOnce
  exact ⟨⟨unled, unled.unmistaken⟩, unledAmid, unledAmid.unmistaken⟩

/-- A report of one window on a workspace, under an address that is not a number. -/
def misaddressedSnapshot : Snapshot :=
  { workspaces := [{ id := 1, name := "1", windows := 1 }]
    windows := [{ address := "0xcat", windowClass := "term", workspace := ⟨1, "1"⟩ }] }

/-- A window is opened under a lead with nothing behind it. -/
def misaddressedRun : List Input :=
  [.snapshot misaddressedSnapshot, .event (.window (.opened "0x" "2" "editor" "notes")),
    .snapshot misaddressedSnapshot]

/-- One of the windows is shown and the other one waits under no text at all, until it comes to the
first one. -/
theorem unled_run_misaddressedRun :
    let done : List WindowChange := [.moved "0x" "1"]
    let before := (run {} misaddressedRun).model
    let amid := (run {} misaddressedRun).midway misaddressedSnapshot done
    (∀ input ∈ misaddressedRun, input.IsLedOnce) ∧
      Input.IsLedOnce (.snapshot misaddressedSnapshot) ∧
      (∀ change ∈ done, Input.IsLedOnce (.event (.window change))) ∧
      before.ownerOf? "cat" = some (.workspace 1) ∧ before.ownerOf? "" = some .orphan ∧
      amid.ownerOf? "" = some (.workspace 1) ∧
      (before.HoldsUnled ∧ before.Unmistaken) ∧ amid.HoldsUnled ∧ amid.Unmistaken := by
  intro done before amid
  have once : ∀ input ∈ misaddressedRun, input.IsLedOnce := by decide
  have snapshotOnce : Input.IsLedOnce (.snapshot misaddressedSnapshot) := by decide
  have doneOnce : ∀ change ∈ done, Input.IsLedOnce (.event (.window change)) := by decide
  exact ⟨once, snapshotOnce, doneOnce, by decide, by decide, by decide,
    unled_run {} once snapshotOnce doneOnce⟩

/-- Reports of two windows on two workspaces, one of them under an address with two leads. -/
def mistakenSnapshot : Snapshot :=
  { workspaces := [{ id := 1, name := "1", windows := 1 }, { id := 2, name := "2", windows := 1 }]
    windows :=
      [{ address := "0x0xab", windowClass := "term", workspace := ⟨1, "1"⟩ },
        { address := "0xab", windowClass := "editor", workspace := ⟨2, "2"⟩ }] }

/-- The window under two leads is held under one of them. A lookup of its address finds the other
window, it is taken from its workspace under the address of the other window, and when it is moved
to where it waits, the other one is gone. -/
theorem not_unled_mistakenSnapshot :
    let model := (run {} [.snapshot mistakenSnapshot]).model
    let moved := model.applyWindowChange (Bar.ofConfig {}) mistakenSnapshot (.moved "0x0xab" "9")
    model.textOn? 1 "0xab" = some "?" ∧ plainAddress "0xab" ≠ "0xab" ∧
      model.owners.get? "0xab" = some (.workspace 1) ∧
      model.ownerOf? "0xab" = some (.workspace 2) ∧
      (model.withdraw "0xab").1.map Window.address = some "ab" ∧
      model.textOn? 2 "ab" = some "?" ∧ moved.textOn? 2 "ab" = none := by
  decide

end Tracker

end Deskbar
