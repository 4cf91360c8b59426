/-
This file looks at a model without its windows. What is left of it, the outline, is all that the
lookups of workspaces read and all that decides which workspaces there are. Windows move between
owners without any change to it, so whatever is said about the outline outlasts every operation
on windows.
-/

import Deskbar.Model.Flags
import Deskbar.Model.Workspaces
import Deskbar.Proofs.Folds
import Deskbar.Proofs.SortedMap

namespace Deskbar

/-! ### Workspaces without windows -/

namespace Workspace

/-- A workspace without its windows, and without the urgency that they bring about. -/
def outline (workspace : Workspace) : Workspace :=
  { workspace with
    flags := { workspace.flags with urgent := false }
    windows := SortedMap.empty
    focused := none }

theorem outline_takeIn (rewriter : Rewriter) (window : Window) (workspace : Workspace) :
    (workspace.takeIn rewriter window).outline = workspace.outline := by
  rw [takeIn]
  split <;> rfl

theorem outline_dismiss (workspace : Workspace) (address : String) :
    (workspace.dismiss address).outline = workspace.outline := rfl

theorem outline_setText (workspace : Workspace) (address text : String) :
    (workspace.setText address text).outline = workspace.outline := rfl

theorem outline_focusOn (workspace : Workspace) (address : Option String) :
    (workspace.focusOn address).outline = workspace.outline := rfl

theorem outline_adopt (workspace : Workspace) (report : ReportedWorkspace) :
    (workspace.adopt report).outline = workspace.outline.adopt report := rfl

theorem key_of_outline {first second : Workspace} (same : first.outline = second.outline) :
    first.key = second.key := (congrArg Workspace.key same :)

theorem id_of_outline {first second : Workspace} (same : first.outline = second.outline) :
    first.id = second.id := (congrArg Workspace.id same :)

theorem reference_of_outline {first second : Workspace}
    (same : first.outline = second.outline) : first.reference = second.reference :=
  (congrArg Workspace.reference same :)

/-- A workspace has adopted a report when its outline has. -/
theorem adopt_outline_iff (workspace : Workspace) (report : ReportedWorkspace) :
    workspace.outline.adopt report = workspace.outline ↔ workspace.adopt report = workspace := by
  constructor
  · intro adopted
    simp only [adopt, rename, outline, Workspace.mk.injEq, Flags.mk.injEq] at adopted
    obtain ⟨-, id, name, reference, output, ⟨-, special, -⟩, count, -⟩ := adopted
    simp only [adopt, rename, id, name, reference, output, special, count]
  · intro adopted
    rw [← outline_adopt, adopted]

end Workspace

namespace Model

/-- A model without its windows. -/
def outline (model : Model) : Model :=
  { empty with
    workspaces := model.workspaces.mapValues Workspace.outline
    lastKey := model.lastKey }

theorem get?_outline (model : Model) (key : Nat) :
    model.outline.workspaces.get? key = (model.workspaces.get? key).map Workspace.outline :=
  SortedMap.get?_mapValues ..

/-- Models with the same outline have a workspace in the same places, with the same outline. -/
theorem get?_of_outline {first second : Model} (same : first.outline = second.outline)
    {key : Nat} {workspace : Workspace} (found : first.workspaces.get? key = some workspace) :
    ∃ other, second.workspaces.get? key = some other ∧ other.outline = workspace.outline := by
  have outlined := get?_outline first key
  rw [same, get?_outline, found] at outlined
  exact Option.map_eq_some_iff.mp outlined

theorem lastKey_of_outline {first second : Model} (same : first.outline = second.outline) :
    first.lastKey = second.lastKey := (congrArg Model.lastKey same :)

/-- Models have the same outline when their workspaces do and they have given out the same keys. -/
theorem outline_ext {first second : Model}
    (workspaces : ∀ key, (first.workspaces.get? key).map Workspace.outline =
      (second.workspaces.get? key).map Workspace.outline)
    (lastKey : first.lastKey = second.lastKey) : first.outline = second.outline := by
  have mapped : first.workspaces.mapValues Workspace.outline =
      second.workspaces.mapValues Workspace.outline :=
    SortedMap.eq_of_get? fun key => by
      rw [SortedMap.get?_mapValues, SortedMap.get?_mapValues, workspaces key]
  rw [outline, outline, mapped, lastKey]

theorem get?_update_self {model : Model} {key : Nat} {workspace : Workspace}
    (present : model.workspaces.get? key = some workspace) (change : Workspace → Workspace) :
    (model.update key change).workspaces.get? key = some (change workspace) := by
  rw [update, SortedMap.get?_modify_self, present, Option.map_some]

/-! ### Changes that the outline does not show -/

/-- A change of one workspace does not show when the workspace is outlined as before. -/
theorem outline_update_of_get? {model : Model} {key : Nat} {change : Workspace → Workspace}
    (kept : ∀ workspace, model.workspaces.get? key = some workspace →
      (change workspace).outline = workspace.outline) :
    (model.update key change).outline = model.outline := by
  refine outline_ext (fun other => ?_) rfl
  rw [update, SortedMap.get?_modify]
  split
  · next same =>
    rw [same]
    cases found : model.workspaces.get? key with
    | none => rfl
    | some workspace => rw [Option.map_some, Option.map_some, Option.map_some, kept _ found]
  · rfl

theorem outline_update {change : Workspace → Workspace}
    (kept : ∀ workspace, (change workspace).outline = workspace.outline) (key : Nat)
    (model : Model) : (model.update key change).outline = model.outline :=
  outline_update_of_get? fun workspace _ => kept workspace

theorem outline_mapValues {change : Workspace → Workspace}
    (kept : ∀ workspace, (change workspace).outline = workspace.outline) (model : Model) :
    { model with workspaces := model.workspaces.mapValues change }.outline = model.outline := by
  refine outline_ext (fun key => ?_) rfl
  show ((model.workspaces.mapValues change).get? key).map _ = _
  rw [SortedMap.get?_mapValues, Option.map_map]
  exact congrArg (Option.map · _) (funext kept)

theorem outline_withdraw (address : String) (model : Model) :
    (model.withdraw address).2.outline = model.outline := by
  rw [withdraw]
  split
  · rfl
  · next key _ =>
    dsimp only
    split
    · rfl
    · exact outline_update (fun workspace => workspace.outline_dismiss address) key
        { model with owners := model.owners.erase address }
  · rfl

theorem outline_place (bar : Bar) (key : Nat) (window : Window) (model : Model) :
    (model.place bar key window).outline = model.outline := by
  rw [place]
  dsimp only
  split
  · exact outline_withdraw window.address model
  · next workspace found =>
    have updated : ((model.withdraw window.address).2.update key fun _ =>
        workspace.takeIn bar.rewriter
          (window.withFocus
            ((model.withdraw window.address).2.hasFocusOn window.address))).outline =
        model.outline := by
      rw [outline_update_of_get?, outline_withdraw]
      intro other present
      rw [Option.some.inj (present.symm.trans found)]
      exact Workspace.outline_takeIn ..
    split
    · exact updated
    · exact updated

theorem outline_orphan (window : Window) (model : Model) :
    (model.orphan window).outline = model.outline := outline_withdraw window.address model

theorem outline_settle (bar : Bar) (window : Window) (model : Model) :
    (model.settle bar window).outline = model.outline := by
  rw [settle]
  split
  · exact outline_place ..
  · exact outline_orphan ..

theorem outline_claimOne (bar : Bar) (key : Nat) (model : Model) (address : String) :
    (model.claimOne bar key address).outline = model.outline := by
  rw [claimOne]
  split
  · rfl
  · rw [outline_place]
    rfl

theorem outline_claim (bar : Bar) (key : Nat) (model : Model) :
    (model.claim bar key).outline = model.outline := by
  rw [claim]
  split
  · rfl
  · exact foldl_view outline (outline_claimOne bar key) _ model

theorem outline_gather (bar : Bar) (snapshot : Snapshot) (key : Nat) (id : Int) (model : Model) :
    (model.gather bar snapshot key id).outline = model.outline := by
  refine foldl_view outline (fun model report => ?_) _ model
  rw [gatherOne]
  split
  · rfl
  · exact outline_place ..

theorem outline_abandon (snapshot : Snapshot) (model : Model) (entry : String × String) :
    (model.abandon snapshot entry).outline = model.outline := by
  rw [abandon]
  split
  · rw [outline_orphan]
    rfl
  · rfl

/-! ### Changes of windows -/

theorem outline_shareFocus (model : Model) : model.shareFocus.outline = model.outline := by
  have kept : ∀ model address, (focusOrphan model address).outline = model.outline :=
    fun _ _ => rfl
  rw [shareFocus, focusOrphans, foldl_view outline kept]
  exact outline_mapValues (fun workspace => workspace.outline_focusOn model.focused) model

theorem outline_openWindow (bar : Bar) (window : Window) (model : Model) :
    (model.openWindow bar window).outline = model.outline := by
  rw [openWindow]
  split
  · rfl
  · exact outline_settle ..

theorem outline_moveWindow (bar : Bar) (snapshot : Snapshot) (address target : String)
    (model : Model) : (model.moveWindow bar snapshot address target).outline = model.outline := by
  rw [moveWindow]
  dsimp only
  split
  · rw [outline_settle, outline_withdraw]
  · exact outline_withdraw address model

theorem outline_retitleWindow (bar : Bar) (snapshot : Snapshot) (address : String)
    (title : Option String) (model : Model) :
    (model.retitleWindow bar snapshot address title).outline = model.outline := by
  rw [retitleWindow]
  split
  · exact outline_update (fun workspace => workspace.outline_setText _ _) _ model
  · split <;> rfl
  · rfl

theorem outline_markUrgent (snapshot : Snapshot) (address : String) (model : Model) :
    (model.markUrgent snapshot address).outline = model.outline := by
  rw [markUrgent]
  split
  · refine outline_update (fun workspace => ?_) _ model
    rfl
  · rfl

/-- A change of a window leaves the workspaces as they are. -/
theorem outline_applyWindowChange (bar : Bar) (snapshot : Snapshot) (model : Model)
    (change : WindowChange) : (model.applyWindowChange bar snapshot change).outline =
      model.outline := by
  cases change with
  | opened address target windowClass title => exact outline_openWindow ..
  | closed address => exact outline_withdraw ..
  | moved address target => exact outline_moveWindow ..
  | retitled address title => exact outline_retitleWindow ..
  | urgent address => exact outline_markUrgent ..
  | focused address => exact outline_shareFocus { model with focused := address.map plainAddress }

theorem outline_applyWindowChanges (bar : Bar) (snapshot : Snapshot)
    (changes : List WindowChange) (model : Model) :
    (model.applyWindowChanges bar snapshot changes).outline = model.outline :=
  foldl_view outline (outline_applyWindowChange bar snapshot) changes model

theorem outline_growOrphans (bar : Bar) (addresses : List String) (model : Model) :
    (model.growOrphans bar addresses).outline = model.outline := by
  refine foldl_view outline (fun model address => ?_) addresses model
  rw [growOrphan]
  split
  · rfl
  · split <;> rfl

end Model

end Deskbar
