/-
This file compares what a bar shows with what it knows. The order of the buttons is written down as
keys once a tick, apart from the workspaces. It names each workspace once all the same: arranging
only changes the order of a list, and every workspace stands under its own key, so the keys lead
back to the workspaces that were arranged.
-/

import Deskbar.Proofs.Numbering
import Deskbar.Proofs.Sorting

namespace Deskbar

open scoped List

/-! ### Arrangements -/

namespace Workspace

/-- The special workspaces are put between the others, and none is left out. -/
theorem centered_perm (list : List Workspace) : (centered list).Perm list := by
  let regular := sortThenByKey compareId (list.filter fun workspace => !workspace.flags.special)
  let special := sortBy (compareOn key) (list.filter fun workspace => workspace.flags.special)
  let middle := regular.length / 2
  have regularKept : regular.Perm (list.filter fun workspace => !workspace.flags.special) :=
    sortBy_perm ..
  have specialKept : special.Perm (list.filter fun workspace => workspace.flags.special) :=
    sortBy_perm ..
  calc
    regular.take middle ++ special ++ regular.drop middle ~
        special ++ regular.take middle ++ regular.drop middle :=
      List.perm_append_comm.append_right _
    _ = special ++ regular := by rw [List.append_assoc, List.take_append_drop]
    _ ~ (list.filter fun workspace => workspace.flags.special) ++
        list.filter fun workspace => !workspace.flags.special := specialKept.append regularKept
    _ ~ list := List.filter_append_perm (fun workspace => workspace.flags.special) list

end Workspace

/-- Arranging only changes the order of the workspaces. -/
theorem Arrangement.sort_perm (arrangement : Arrangement) (monitors : List ReportedMonitor)
    (list : List Workspace) : (arrangement.sort monitors list).Perm list := by
  cases arrangement with
  | byName =>
    rw [sort]
    split <;> exact sortBy_perm ..
  | specialCentered => exact Workspace.centered_perm list
  | byId => exact sortBy_perm ..
  | byNumber => exact sortBy_perm ..
  | byPosition => exact sortBy_perm ..
  | byCreation => exact sortBy_perm ..

namespace Model.Identified

variable {model : Model}

/-- The keys of the workspaces are those they stand under. -/
theorem map_key_values (identified : model.Identified) :
    model.workspaces.values.map Workspace.key = model.workspaces.keys := by
  rw [SortedMap.values, SortedMap.keys, List.map_map]
  exact List.map_congr_left fun entry member =>
    identified.keyed (SortedMap.get?_eq_some_iff.mpr member)

/-- Keys of workspaces lead back to them. -/
theorem filterMap_get?_key (identified : model.Identified) {list : List Workspace}
    (known : ∀ workspace ∈ list, workspace ∈ model.workspaces.values) :
    (list.map Workspace.key).filterMap model.workspaces.get? = list := by
  have found : ∀ workspace ∈ list, model.workspaces.get? workspace.key = some workspace := by
    intro workspace member
    obtain ⟨key, present⟩ := SortedMap.mem_values_iff.mp (known workspace member)
    rw [identified.keyed present, present]
  rw [List.filterMap_map]
  exact (List.filterMap_congr found).trans List.filterMap_some

end Model.Identified

namespace Tracker

/-! ### Buttons after a tick -/

/-- After a tick the workspaces are shown as the arrangement puts them. -/
theorem workspaces_tick {tracker : Tracker} (identified : tracker.model.Identified)
    (snapshot : Snapshot) :
    (tracker.tick snapshot).workspaces = tracker.bar.config.arrangement.sort snapshot.monitors
      (tracker.nextModel snapshot).workspaces.values := by
  refine (identified.nextModel snapshot).filterMap_get?_key fun workspace member => ?_
  exact (Arrangement.sort_perm ..).mem_iff.mp member

/-- What a tracker shows is what it knows. The order of the buttons names each workspace once and
nothing else, and the workspaces are listed in this order. -/
structure ShowsAll (tracker : Tracker) : Prop where
  display : tracker.display.Perm tracker.model.workspaces.keys
  ordered : tracker.workspaces.map Workspace.key = tracker.display
  workspaces : tracker.workspaces.Perm tracker.model.workspaces.values

theorem showsAll_tick {tracker : Tracker} (identified : tracker.model.Identified)
    (snapshot : Snapshot) : (tracker.tick snapshot).ShowsAll where
  display := by
    have kept := (Arrangement.sort_perm tracker.bar.config.arrangement snapshot.monitors
      (tracker.nextModel snapshot).workspaces.values).map Workspace.key
    rwa [(identified.nextModel snapshot).map_key_values] at kept
  ordered := congrArg (List.map Workspace.key) (workspaces_tick identified snapshot)
  workspaces := by
    rw [workspaces_tick identified]
    exact Arrangement.sort_perm ..

namespace ShowsAll

variable {tracker : Tracker}

/-- There is one button for each workspace that the filters let through. -/
theorem buttons (shows : tracker.ShowsAll) :
    tracker.buttons.Perm
      ((tracker.model.workspaces.values.filter fun workspace =>
        workspace.passes tracker.bar.config).map (Button.ofWorkspace tracker.bar)) :=
  (shows.workspaces.filter _).map _

end ShowsAll

end Tracker

end Deskbar
