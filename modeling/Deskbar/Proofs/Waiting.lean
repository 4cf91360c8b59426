/-
This file says what happens to windows that wait. They become fewer when windows are given to
workspaces: whatever is placed, gathered or claimed, no window starts to wait and none waits for
another workspace than before. When a tick is over each of them grows older by one tick, and one
that has waited for too long is forgotten: it does not wait any longer and the index no longer
names it.
-/

import Deskbar.Model.Flags
import Deskbar.Model.Workspaces
import Deskbar.Proofs.SortedMap

namespace Deskbar

namespace Model

theorem get?_orphans_orphan (window : Window) (model : Model) (address : String) :
    (model.orphan window).orphans.get? address =
      if address = window.address then
        some (window.withFocus ((model.withdraw window.address).2.hasFocusOn window.address))
      else (model.withdraw window.address).2.orphans.get? address := by
  rw [orphan, SortedMap.get?_insert]
  rfl

/-! ### Windows that wait become fewer -/

/-- Every window that waits has waited before, and nothing about it has changed. -/
structure Sheds (before after : SortedMap String Window) : Prop where
  kept : ∀ {address window}, after.get? address = some window → before.get? address = some window

/-- Every window that waits has waited before, for the same workspace. -/
structure Dwindles (before after : SortedMap String Window) : Prop where
  waited : ∀ {address window}, after.get? address = some window →
    ∃ old, before.get? address = some old ∧ old.workspace = window.workspace

namespace Sheds

theorem refl (orphans : SortedMap String Window) : Sheds orphans orphans := ⟨id⟩

theorem trans {first second third : SortedMap String Window} (fewer : Sheds first second)
    (stillFewer : Sheds second third) : Sheds first third :=
  ⟨fun found => fewer.kept (stillFewer.kept found)⟩

theorem dwindles {before after : SortedMap String Window} (fewer : Sheds before after) :
    Dwindles before after :=
  ⟨fun found => ⟨_, fewer.kept found, rfl⟩⟩

theorem erase (orphans : SortedMap String Window) (address : String) :
    Sheds orphans (orphans.erase address) := by
  refine ⟨fun {other window} found => ?_⟩
  rw [SortedMap.get?_erase] at found
  split at found
  · cases found
  · exact found

theorem foldl {Item : Type} {step : Model → Item → Model}
    (fewer : ∀ model item, Sheds model.orphans (step model item).orphans) (items : List Item)
    (model : Model) : Sheds model.orphans (items.foldl step model).orphans :=
  List.foldlRecOn items step (motive := fun next => Sheds model.orphans next.orphans)
    (refl model.orphans) fun next kept item _ => kept.trans (fewer next item)

theorem withdraw (address : String) (model : Model) :
    Sheds model.orphans (model.withdraw address).2.orphans := by
  rw [Model.withdraw]
  split
  · exact refl model.orphans
  · dsimp only
    split <;> exact refl model.orphans
  · exact erase model.orphans address

theorem place (bar : Bar) (key : Nat) (window : Window) (model : Model) :
    Sheds model.orphans (model.place bar key window).orphans := by
  have withdrawn := withdraw window.address model
  rw [Model.place]
  dsimp only
  split
  · exact withdrawn
  · split <;> exact withdrawn

theorem claimOne (bar : Bar) (key : Nat) (model : Model) (address : String) :
    Sheds model.orphans (model.claimOne bar key address).orphans := by
  rw [Model.claimOne]
  split
  · exact refl model.orphans
  · next window _ =>
    exact (erase model.orphans address).trans (place bar key window
      { model with
        orphans := model.orphans.erase address
        owners := model.owners.erase address })

theorem claim (bar : Bar) (key : Nat) (model : Model) :
    Sheds model.orphans (model.claim bar key).orphans := by
  rw [Model.claim]
  split
  · exact refl model.orphans
  · exact foldl (claimOne bar key) _ model

theorem gather (bar : Bar) (snapshot : Snapshot) (key : Nat) (id : Int) (model : Model) :
    Sheds model.orphans (model.gather bar snapshot key id).orphans := by
  refine foldl (fun next (report : ReportedWindow) => ?_) _ model
  rw [gatherOne]
  split
  · exact refl next.orphans
  · exact place ..

theorem ensure (bar : Bar) (snapshot : Snapshot) (report : ReportedWorkspace) (model : Model) :
    Sheds model.orphans (model.ensure bar snapshot report).orphans := by
  rw [Model.ensure]
  split
  · split
    · next workspace _ =>
      have adopted : Sheds model.orphans (model.update workspace.key fun workspace =>
        workspace.adopt report).orphans := refl model.orphans
      split
      · exact adopted.trans (claim ..)
      · exact (adopted.trans (gather ..)).trans (claim ..)
    · have created : Sheds model.orphans (model.create bar report).orphans := refl model.orphans
      exact (created.trans (gather ..)).trans (claim ..)
  · exact refl model.orphans

end Sheds

namespace Dwindles

theorem refl (orphans : SortedMap String Window) : Dwindles orphans orphans :=
  (Sheds.refl orphans).dwindles

theorem trans {first second third : SortedMap String Window} (fewer : Dwindles first second)
    (stillFewer : Dwindles second third) : Dwindles first third := by
  refine ⟨fun found => ?_⟩
  obtain ⟨middle, middleFound, middleSame⟩ := stillFewer.waited found
  obtain ⟨old, oldFound, oldSame⟩ := fewer.waited middleFound
  exact ⟨old, oldFound, oldSame.trans middleSame⟩

theorem get?_eq_none {before after : SortedMap String Window} (fewer : Dwindles before after)
    {address : String} (absent : before.get? address = none) : after.get? address = none := by
  cases found : after.get? address with
  | none => rfl
  | some window =>
    obtain ⟨old, oldFound, -⟩ := fewer.waited found
    cases absent.symm.trans oldFound

theorem modify (orphans : SortedMap String Window) (address : String) {change : Window → Window}
    (kept : ∀ window, (change window).workspace = window.workspace) :
    Dwindles orphans (orphans.modify address change) := by
  refine ⟨fun {other window} found => ?_⟩
  rw [SortedMap.get?_modify] at found
  split at found
  · obtain ⟨old, oldFound, rfl⟩ := Option.map_eq_some_iff.mp found
    exact ⟨old, oldFound, (kept old).symm⟩
  · exact ⟨window, found, rfl⟩

theorem foldl {Item : Type} {step : Model → Item → Model}
    (fewer : ∀ model item, Dwindles model.orphans (step model item).orphans) (items : List Item)
    (model : Model) : Dwindles model.orphans (items.foldl step model).orphans :=
  List.foldlRecOn items step (motive := fun next => Dwindles model.orphans next.orphans)
    (refl model.orphans) fun next kept item _ => kept.trans (fewer next item)

theorem growOrphans (bar : Bar) (addresses : List String) (model : Model) :
    Dwindles model.orphans (model.growOrphans bar addresses).orphans := by
  refine foldl (fun next (address : String) => ?_) addresses model
  rw [growOrphan]
  split
  · exact refl next.orphans
  · split
    · exact (Sheds.erase next.orphans address).dwindles
    · exact modify next.orphans address fun _ => rfl

theorem shareFocus (model : Model) : Dwindles model.orphans model.shareFocus.orphans := by
  refine foldl (fun next (address : String) => ?_) model.orphans.keys model.focusWorkspaces
  dsimp only [focusOrphan]
  exact modify next.orphans address fun _ => rfl

theorem observe (bar : Bar) (snapshot : Snapshot) (model : Model) :
    Dwindles model.orphans (model.observe bar snapshot).orphans :=
  shareFocus
    { model with
      focused := snapshot.focusedAddress?.or model.focused
      workspaces := model.workspaces.mapValues fun workspace => workspace.observe bar snapshot }

end Dwindles

end Model

/-! ### A tick older -/

/-- Whether a window will have waited for too long when it has grown older. -/
def Bar.outgrows (bar : Bar) (window : Window) : Bool := bar.config.retryBudget < window.grow.age

/-- A window that waits a tick later; `none` when it is forgotten. -/
def Bar.grown? (bar : Bar) (window : Window) : Option Window :=
  if bar.outgrows window then none else some window.grow

theorem Bar.grown?_eq (bar : Bar) (window : Window) :
    bar.grown? window =
      if bar.config.retryBudget < window.grow.age then none else some window.grow := by
  simp only [grown?, outgrows, decide_eq_true_eq]

namespace Model

theorem get?_orphans_growOrphan (bar : Bar) (model : Model) (address other : String) :
    (model.growOrphan bar address).orphans.get? other =
      if other = address then (model.orphans.get? other).bind bar.grown?
      else model.orphans.get? other := by
  rw [growOrphan]
  split
  · next absent =>
    split
    · next same => rw [same, absent, Option.bind_none]
    · rfl
  · next window found =>
    split
    · next outgrown =>
      rw [SortedMap.get?_erase]
      split
      · next same => rw [same, found, Option.bind_some, Bar.grown?_eq, if_pos outgrown]
      · rfl
    · next young =>
      rw [SortedMap.get?_modify]
      split
      · next same =>
        rw [same, found, Option.bind_some, Bar.grown?_eq, if_neg young]
        rfl
      · rfl

theorem get?_owners_growOrphan (bar : Bar) (model : Model) (address other : String) :
    (model.growOrphan bar address).owners.get? other =
      if other = address ∧ (model.orphans.get? other).any bar.outgrows = true then none
      else model.owners.get? other := by
  rw [growOrphan]
  split
  · next absent =>
    refine (if_neg ?_).symm
    rintro ⟨rfl, old⟩
    rw [absent] at old
    cases old
  · next window found =>
    split
    · next outgrown =>
      rw [SortedMap.get?_erase]
      refine if_congr ⟨fun same => ⟨same, ?_⟩, And.left⟩ rfl rfl
      rw [same, found]
      exact decide_eq_true outgrown
    · next young =>
      refine (if_neg ?_).symm
      rintro ⟨rfl, old⟩
      rw [found] at old
      exact young (of_decide_eq_true old)

/-- Of windows that wait each one grows older by one tick, or is forgotten. -/
theorem get?_orphans_growOrphans (bar : Bar) {addresses : List String} (distinct : addresses.Nodup)
    (model : Model) (address : String) :
    (model.growOrphans bar addresses).orphans.get? address =
      if address ∈ addresses then (model.orphans.get? address).bind bar.grown?
      else model.orphans.get? address := by
  induction addresses generalizing model with
  | nil => rfl
  | cons first rest inductionHypothesis =>
    obtain ⟨notLater, restDistinct⟩ := List.nodup_cons.mp distinct
    refine (inductionHypothesis restDistinct (model.growOrphan bar first)).trans ?_
    rw [get?_orphans_growOrphan]
    by_cases same : address = first
    · rw [same, if_neg notLater, if_pos rfl, if_pos List.mem_cons_self]
    · simp only [same, if_false, List.mem_cons, false_or]

theorem get?_owners_growOrphans (bar : Bar) {addresses : List String} (distinct : addresses.Nodup)
    (model : Model) (address : String) :
    (model.growOrphans bar addresses).owners.get? address =
      if address ∈ addresses ∧ (model.orphans.get? address).any bar.outgrows = true then none
      else model.owners.get? address := by
  induction addresses generalizing model with
  | nil => rw [if_neg (fun both => List.not_mem_nil both.1)]; rfl
  | cons first rest inductionHypothesis =>
    obtain ⟨notLater, restDistinct⟩ := List.nodup_cons.mp distinct
    refine (inductionHypothesis restDistinct (model.growOrphan bar first)).trans ?_
    rw [get?_orphans_growOrphan, get?_owners_growOrphan]
    by_cases same : address = first
    · rw [if_neg fun both => notLater (same ▸ both.1)]
      simp only [same, List.mem_cons_self, true_and]
    · simp only [same, if_false, List.mem_cons, false_or, false_and]

/-- Nothing but the windows that wait and the index changes when windows grow older. -/
theorem growOrphans_eq (bar : Bar) (addresses : List String) (model : Model) :
    model.growOrphans bar addresses =
      { model with
        orphans := (model.growOrphans bar addresses).orphans
        owners := (model.growOrphans bar addresses).owners } := by
  have kept : (model.growOrphans bar addresses).workspaces = model.workspaces ∧
      (model.growOrphans bar addresses).focused = model.focused ∧
      (model.growOrphans bar addresses).lastKey = model.lastKey := by
    refine List.foldlRecOn addresses (growOrphan bar)
      (motive := fun next => next.workspaces = model.workspaces ∧ next.focused = model.focused ∧
        next.lastKey = model.lastKey) ⟨rfl, rfl, rfl⟩ fun next same address _ => ?_
    rw [growOrphan]
    split
    · exact same
    · split <;> exact same
  rw [← kept.1, ← kept.2.1, ← kept.2.2]

theorem workspaces_growOrphans (bar : Bar) (addresses : List String) (model : Model) :
    (model.growOrphans bar addresses).workspaces = model.workspaces := by rw [growOrphans_eq]

theorem focused_growOrphans (bar : Bar) (addresses : List String) (model : Model) :
    (model.growOrphans bar addresses).focused = model.focused := by rw [growOrphans_eq]

/-- When all windows that wait grow older, every one of them does or is forgotten. -/
theorem get?_orphans_growAll (bar : Bar) (model : Model) (address : String) :
    (model.growOrphans bar model.orphans.keys).orphans.get? address =
      (model.orphans.get? address).bind bar.grown? := by
  rw [get?_orphans_growOrphans bar model.orphans.keys_nodup]
  split
  · rfl
  · next absent => rw [SortedMap.get?_eq_none_iff.mpr absent, Option.bind_none]

theorem get?_owners_growAll (bar : Bar) (model : Model) (address : String) :
    (model.growOrphans bar model.orphans.keys).owners.get? address =
      if (model.orphans.get? address).any bar.outgrows = true then none
      else model.owners.get? address := by
  rw [get?_owners_growOrphans bar model.orphans.keys_nodup]
  refine if_congr ⟨And.right, fun old => ⟨?_, old⟩⟩ rfl rfl
  obtain ⟨window, waits, -⟩ := (Option.any_eq_true ..).mp old
  exact SortedMap.mem_keys_iff.mpr ⟨window, waits⟩

end Model

end Deskbar
