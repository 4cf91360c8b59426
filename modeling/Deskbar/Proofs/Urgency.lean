/-
This file says what leaves the urgency of workspaces alone. The outline of a model does not show it,
as a change of a window may bring it about. Nothing else that is done with windows does, and neither
do reports, so a workspace on the bar is urgent after its report has come if it was before, and one
stays urgent when another one is removed. Only the observation at the end of a tick takes it away,
from a workspace that is active.
-/

import Deskbar.Proofs.Agreement

namespace Deskbar.Model

/-- Which workspaces are urgent, by key. -/
def urgency (model : Model) (key : Nat) : Option Bool :=
  (model.workspaces.get? key).map fun workspace => workspace.flags.urgent

theorem urgency_of_get? {model : Model} {key : Nat} {workspace : Workspace}
    (present : model.workspaces.get? key = some workspace) :
    model.urgency key = some workspace.flags.urgent := by
  rw [urgency, present, Option.map_some]

/-! ### Windows -/

theorem urgency_update {model : Model} {key : Nat} {change : Workspace → Workspace}
    (kept : ∀ workspace, model.workspaces.get? key = some workspace →
      (change workspace).flags.urgent = workspace.flags.urgent) :
    (model.update key change).urgency = model.urgency := by
  refine funext fun other => ?_
  rw [urgency, update, SortedMap.get?_modify, urgency]
  split
  · next same =>
    rw [same]
    cases present : model.workspaces.get? key with
    | none => rfl
    | some workspace => exact congrArg some (kept workspace present)
  · rfl

theorem urgency_withdraw (address : String) (model : Model) :
    (model.withdraw address).2.urgency = model.urgency := by
  rw [withdraw]
  split
  · rfl
  · next key _ =>
    dsimp only
    split
    · rfl
    · refine (urgency_update fun workspace _ => ?_ :
        ({ model with owners := model.owners.erase address }.update key fun workspace =>
          workspace.dismiss address).urgency = _)
      rfl
  · rfl

theorem urgent_takeIn (rewriter : Rewriter) (window : Window) (workspace : Workspace) :
    (workspace.takeIn rewriter window).flags.urgent = workspace.flags.urgent := by
  rw [Workspace.takeIn]
  split <;> rfl

theorem urgency_place (bar : Bar) (key : Nat) (window : Window) (model : Model) :
    (model.place bar key window).urgency = model.urgency := by
  have withdrawn := urgency_withdraw window.address model
  rw [place]
  dsimp only
  split
  · exact withdrawn
  · next workspace found =>
    have updated : ((model.withdraw window.address).2.update key fun _ =>
        workspace.takeIn bar.rewriter
          (window.withFocus ((model.withdraw window.address).2.hasFocusOn
            window.address))).urgency = model.urgency := by
      refine (urgency_update fun other present => ?_).trans withdrawn
      rw [urgent_takeIn, Option.some.inj (present.symm.trans found)]
    split
    · exact updated
    · exact updated

theorem urgency_settle (bar : Bar) (window : Window) (model : Model) :
    (model.settle bar window).urgency = model.urgency := by
  rw [settle]
  split
  · exact urgency_place ..
  · exact urgency_withdraw window.address model

theorem urgency_claim (bar : Bar) (key : Nat) (model : Model) :
    (model.claim bar key).urgency = model.urgency := by
  rw [claim]
  split
  · rfl
  · refine foldl_view urgency (fun next address => ?_) _ model
    rw [claimOne]
    split
    · rfl
    · exact urgency_place ..

theorem urgency_gather (bar : Bar) (snapshot : Snapshot) (key : Nat) (id : Int) (model : Model) :
    (model.gather bar snapshot key id).urgency = model.urgency := by
  refine foldl_view urgency (fun next report => ?_) _ model
  rw [gatherOne]
  split
  · rfl
  · exact urgency_place ..

theorem urgency_abandon (snapshot : Snapshot) (model : Model) (entry : String × String) :
    (model.abandon snapshot entry).urgency = model.urgency := by
  rw [abandon]
  split
  · exact urgency_withdraw _ { model with owners := model.owners.erase entry.1 }
  · rfl

theorem urgency_openWindow (bar : Bar) (window : Window) (model : Model) :
    (model.openWindow bar window).urgency = model.urgency := by
  rw [openWindow]
  split
  · rfl
  · exact urgency_settle ..

theorem urgency_moveWindow (bar : Bar) (snapshot : Snapshot) (address target : String)
    (model : Model) : (model.moveWindow bar snapshot address target).urgency = model.urgency := by
  rw [moveWindow]
  dsimp only
  split
  · rw [urgency_settle, urgency_withdraw]
  · exact urgency_withdraw address model

theorem urgency_retitleWindow (bar : Bar) (snapshot : Snapshot) (address : String)
    (title : Option String) (model : Model) :
    (model.retitleWindow bar snapshot address title).urgency = model.urgency := by
  rw [retitleWindow]
  split
  · exact urgency_update fun _ _ => rfl
  · split <;> rfl
  · rfl

theorem urgency_shareFocus (model : Model) : model.shareFocus.urgency = model.urgency := by
  refine funext fun key => ?_
  rw [urgency, workspaces_shareFocus, focusWorkspaces, SortedMap.get?_mapValues, Option.map_map]
  rfl

/-! ### Workspaces -/

/-- Removal of a workspace leaves the urgency of the others. -/
theorem urgency_remove_of_ne (model : Model) (snapshot : Snapshot) {key other : Nat}
    (different : other ≠ key) :
    (model.remove snapshot key).urgency other = model.urgency other := by
  rw [remove]
  split
  · rfl
  · dsimp only
    rw [foldl_view urgency (urgency_abandon snapshot)]
    split
    · rw [urgency, update, SortedMap.get?_modify_of_ne _ _ different, urgency]
    · rw [urgency, SortedMap.get?_erase_of_ne _ different, urgency]

/-- A workspace that is added brings its own urgency. -/
theorem urgency_insert (workspace : Workspace) (lastKey : Nat) (model : Model) :
    { model with
      workspaces := model.workspaces.insert (model.lastKey + 1) workspace
      lastKey := lastKey }.urgency =
      Function.update model.urgency (model.lastKey + 1) (some workspace.flags.urgent) := by
  refine funext fun key => ?_
  rw [urgency, SortedMap.get?_insert, Function.update_apply]
  split <;> rfl

/-- A report leaves urgency alone, but for a workspace that comes with it and is not urgent. -/
theorem urgency_ensure (bar : Bar) (snapshot : Snapshot) (report : ReportedWorkspace)
    (model : Model) :
    (model.ensure bar snapshot report).urgency = model.urgency ∨
      (model.ensure bar snapshot report).urgency =
        Function.update model.urgency (model.lastKey + 1) (some false) := by
  cases taken : bar.takesReport report with
  | false =>
    rw [ensure_of_refused taken]
    exact Or.inl rfl
  | true =>
    cases found : model.forReport? report with
    | some workspace =>
      have adopted : (model.update workspace.key fun workspace => workspace.adopt report).urgency =
          model.urgency := urgency_update fun _ _ => rfl
      rw [ensure_of_found taken snapshot found]
      dsimp only
      split
      · exact Or.inl ((urgency_claim ..).trans adopted)
      · exact Or.inl ((urgency_claim ..).trans ((urgency_gather ..).trans adopted))
    | none =>
      rw [ensure_of_missing taken snapshot found, urgency_claim, urgency_gather]
      exact Or.inr (urgency_insert _ _ model)

/-- A report leaves the urgency of the workspaces that are there. -/
theorem urgency_ensure_of_get? {model : Model} (identified : model.Identified) (bar : Bar)
    (snapshot : Snapshot) (report : ReportedWorkspace) {key : Nat} {workspace : Workspace}
    (present : model.workspaces.get? key = some workspace) :
    (model.ensure bar snapshot report).urgency key = some workspace.flags.urgent := by
  rw [← urgency_of_get? present]
  rcases urgency_ensure bar snapshot report model with same | added
  · rw [same]
  · have old : key ≠ model.lastKey + 1 :=
      Nat.ne_of_lt (Nat.lt_succ_of_le (identified.bounded present))
    rw [added, Function.update_of_ne old]

/-! ### The end of a tick -/

theorem active_observe (bar : Bar) (snapshot : Snapshot) (workspace : Workspace) :
    (workspace.observe bar snapshot).flags.active = snapshot.showsActive workspace := by
  have same : (workspace.reported snapshot).id = workspace.id :=
    Workspace.id_observe bar snapshot workspace
  show snapshot.showsActive (workspace.reported snapshot) = _
  rw [Snapshot.showsActive, same, ← Snapshot.showsActive]

theorem urgent_observe (bar : Bar) (snapshot : Snapshot) (workspace : Workspace) :
    (workspace.observe bar snapshot).flags.urgent =
      (workspace.flags.urgent && !snapshot.showsActive workspace) := by
  have kept : (workspace.reported snapshot).flags.urgent = workspace.flags.urgent := by
    rw [Workspace.reported]
    split <;> rfl
  rw [← active_observe bar, ← kept]
  rfl

theorem urgency_observe (bar : Bar) (snapshot : Snapshot) {model : Model} {key : Nat}
    {workspace after : Workspace} (present : model.workspaces.get? key = some workspace)
    (observed : (model.observe bar snapshot).workspaces.get? key = some after) :
    after.flags.urgent = (workspace.flags.urgent && !after.flags.active) := by
  rw [get?_observe, present, Option.map_some] at observed
  rw [← Option.some.inj observed]
  refine (urgent_observe bar snapshot workspace).trans ?_
  rw [← active_observe bar]
  rfl

end Deskbar.Model
