/-
This file shows that a bar whose compositor has read its configuration again is as good as new. What
it shows after the tick is what a bar that has been told nothing shows after its first tick on the
same reports, whatever it knew and whatever work waited.

Three things outlast the old workspaces. Keys go on from the last one, and every arrangement falls
back on them, but they only move up together and so compare as before. The focus is kept until the
reports name a window that has it, and the reports here name one. And a rewriter may remember
what it was asked, but it remembers nothing that it would not answer anyway.
-/

import Deskbar.Proofs.Delivery
import Deskbar.Proofs.Display
import Deskbar.Proofs.Rekeying
import Deskbar.Rewriter.Memory

namespace Deskbar

/-! ### Arrangements of renumbered workspaces -/

namespace Workspace

theorem compareKey_renumber (distance : Nat) (first second : Workspace) :
    compareOn key (first.renumber distance) (second.renumber distance) =
      compareOn key first second := by
  show compare (first.key + distance) (second.key + distance) = compare first.key second.key
  simp only [Nat.compare_eq_ite_lt, Nat.add_lt_add_iff_right]

/-- What is sorted by a measure that does not look at the key, and then by the key, is sorted alike
when the keys move up together. -/
theorem sortThenByKey_renumber (distance : Nat) {order : Workspace → Workspace → Ordering}
    (blind : ∀ first second : Workspace,
      order (first.renumber distance) (second.renumber distance) = order first second)
    (list : List Workspace) :
    sortThenByKey order (list.map (renumber distance)) =
      (sortThenByKey order list).map (renumber distance) := by
  refine sortBy_map _ (fun first second => ?_) list
  rw [compareLex, compareLex, blind, compareKey_renumber]

theorem centered_renumber (distance : Nat) (list : List Workspace) :
    centered (list.map (renumber distance)) = (centered list).map (renumber distance) := by
  have filtered : ∀ test : Workspace → Bool, test ∘ renumber distance = test →
      (list.map (renumber distance)).filter test = (list.filter test).map (renumber distance) :=
    fun test same => by rw [List.filter_map, same]
  have regular : ∀ part : List Workspace, sortThenByKey compareId (part.map (renumber distance)) =
      (sortThenByKey compareId part).map (renumber distance) :=
    sortThenByKey_renumber distance fun _ _ => rfl
  have special : ∀ part : List Workspace, sortBy (compareOn key) (part.map (renumber distance)) =
      (sortBy (compareOn key) part).map (renumber distance) :=
    sortBy_map _ (compareKey_renumber distance)
  rw [centered, centered, filtered _ rfl, filtered _ rfl]
  simp only [regular, special, List.length_map, List.map_append, List.map_take, List.map_drop]

end Workspace

/-- Workspaces are arranged alike under keys that are all greater by a distance. -/
theorem Arrangement.sort_renumber (arrangement : Arrangement) (monitors : List ReportedMonitor)
    (distance : Nat) (list : List Workspace) :
    arrangement.sort monitors (list.map (Workspace.renumber distance)) =
      (arrangement.sort monitors list).map (Workspace.renumber distance) := by
  have byMeasure : ∀ order : Workspace → Workspace → Ordering,
      (∀ first second : Workspace,
        order (first.renumber distance) (second.renumber distance) = order first second) →
      Workspace.sortThenByKey order (list.map (Workspace.renumber distance)) =
        (Workspace.sortThenByKey order list).map (Workspace.renumber distance) :=
    fun _ blind => Workspace.sortThenByKey_renumber distance blind list
  cases arrangement with
  | byId => exact byMeasure _ fun _ _ => rfl
  | byName =>
    have numbered : (list.map (Workspace.renumber distance)).all
          (fun workspace => workspace.number?.isSome) =
        list.all fun workspace => workspace.number?.isSome := by
      rw [List.all_map]
      rfl
    rw [sort, sort, numbered]
    split
    · exact byMeasure _ fun _ _ => rfl
    · exact byMeasure _ fun _ _ => rfl
  | byNumber => exact byMeasure _ fun _ _ => rfl
  | specialCentered => exact Workspace.centered_renumber distance list
  | byPosition => exact byMeasure _ fun _ _ => rfl
  | byCreation => exact sortBy_map _ (Workspace.compareKey_renumber distance) list

/-! ### Rewriters that remember -/

namespace Rewriter.Remembering

/-- Whether what a rewriter remembers is what it would answer. -/
def IsFaithful (remembering : Remembering) : Prop :=
  ∀ input outcome, remembering.memory.get? input = some outcome →
    outcome = remembering.rewriter.resolve input

theorem isFaithful_new (rewriter : Rewriter) : ({ rewriter } : Remembering).IsFaithful :=
  fun _ _ remembered => absurd remembered.symm (Option.some_ne_none _)

/-- A faithful rewriter answers as if it had no memory, and what it adds to its memory is such an
answer. -/
theorem IsFaithful.resolve {remembering : Remembering} (faithful : remembering.IsFaithful)
    (input : String) :
    (remembering.resolve input).1 = remembering.rewriter.resolve input ∧
      (remembering.resolve input).2.IsFaithful ∧
      (remembering.resolve input).2.rewriter = remembering.rewriter := by
  rw [Remembering.resolve]
  cases remembered : remembering.memory.get? input with
  | some outcome => exact ⟨faithful input outcome remembered, faithful, rfl⟩
  | none =>
    refine ⟨rfl, fun other outcome found => ?_, rfl⟩
    rw [SortedMap.get?_insert] at found
    split at found
    · next same => rw [same, ← Option.some.inj found]
    · exact faithful other outcome found

theorem IsFaithful.resolveAll {remembering : Remembering} (faithful : remembering.IsFaithful)
    (inputs : List String) :
    (remembering.resolveAll inputs).1 = inputs.map remembering.rewriter.resolve ∧
      (remembering.resolveAll inputs).2.IsFaithful ∧
      (remembering.resolveAll inputs).2.rewriter = remembering.rewriter := by
  induction inputs generalizing remembering with
  | nil => exact ⟨rfl, faithful, rfl⟩
  | cons input rest inductionHypothesis =>
    obtain ⟨answer, kept, same⟩ := faithful.resolve input
    obtain ⟨answers, keptAll, sameAll⟩ := inductionHypothesis kept
    rw [same] at answers sameAll
    refine ⟨?_, keptAll, sameAll⟩
    rw [Remembering.resolveAll, List.map_cons, ← answer, ← answers]

end Rewriter.Remembering

namespace Tracker

/-! ### Buttons after starting over -/

theorem buttons_of_renumbered {first second : Tracker} (distance : Nat)
    (bar : first.bar = second.bar)
    (workspaces : first.workspaces = second.workspaces.map (Workspace.renumber distance)) :
    first.buttons = second.buttons := by
  rw [buttons, buttons, workspaces, bar, List.filter_map, List.map_map]
  rfl

theorem observe_rekey (bar : Bar) (snapshot : Snapshot) (distance : Nat) (workspace : Workspace) :
    (workspace.rekey distance).observe bar snapshot =
      (workspace.observe bar snapshot).rekey distance := by
  have reported : (workspace.rekey distance).reported snapshot =
      (workspace.reported snapshot).rekey distance := by
    have report : snapshot.reportOf? (workspace.rekey distance) = snapshot.reportOf? workspace :=
      rfl
    rw [Workspace.reported, Workspace.reported, report]
    split <;> rfl
  rw [Workspace.observe, reported]
  rfl

theorem values_observe (bar : Bar) (snapshot : Snapshot) (model : Model) :
    (model.observe bar snapshot).workspaces.values = model.workspaces.values.map fun workspace =>
      (workspace.observe bar snapshot).focusOn (snapshot.focusedAddress?.or model.focused) := by
  rw [Model.observe, Model.workspaces_shareFocus, Model.focusWorkspaces, SortedMap.values,
    SortedMap.values, SortedMap.mapValues, SortedMap.mapValues]
  simp only [List.map_map]
  rfl

/-- With a window that the reports give the focus, starting over comes to the workspaces that a new
model comes to, under keys that follow the old ones. -/
theorem values_observe_startOver {bar : Bar} {snapshot : Snapshot} {address : String}
    (focused : snapshot.focusedAddress? = some address) (model : Model) :
    ((model.startOver bar snapshot).observe bar snapshot).workspaces.values =
      ((Model.empty.startOver bar snapshot).observe bar snapshot).workspaces.values.map
        (Workspace.renumber model.lastKey) := by
  let seen (workspace : Workspace) : Workspace :=
    (workspace.observe bar snapshot).focusOn (some address)
  have seen_rekey : ∀ distance workspace,
      seen (workspace.rekey distance) = (seen workspace).renumber distance :=
    fun distance workspace => congrArg (Workspace.focusOn · (some address))
      (observe_rekey bar snapshot distance workspace)
  have rekeyed : ∀ (other : Model) (distance : Nat),
      (other.rekey distance).workspaces.values.map seen =
        (other.workspaces.values.map seen).map (Workspace.renumber distance) := by
    intro other distance
    rw [Model.rekey, SortedMap.values_shifted, List.map_map, List.map_map]
    exact List.map_congr_left fun workspace _ => seen_rekey distance workspace
  have observed : ∀ other : Model, (other.observe bar snapshot).workspaces.values =
      other.workspaces.values.map seen := by
    intro other
    rw [values_observe, focused]
    rfl
  rw [observed, observed]
  calc
    (model.startOver bar snapshot).workspaces.values.map seen =
        ((model.startOver bar snapshot).rekey 0).workspaces.values.map seen := by
      rw [rekeyed]
      exact (List.map_id _).symm
    _ = ((Model.empty.startOver bar snapshot).rekey model.lastKey).workspaces.values.map seen := by
      rw [Model.rekey_startOver]
    _ = _ := rekeyed _ _

/-- A tick after the compositor has read its configuration again is as good as the first tick of a
bar that has been told nothing, when the reports say which window has the focus. Whatever came in
before and whatever else waits, the buttons are the same. All the workspaces stand under keys that
come into use in this tick, and every one of these is greater than all the keys that have been given
out before. A rewriter that remembers what it was asked before answers as a new one does. -/
theorem reload_as_new [Pattern.Engine] (config : BarConfig) (inputs : List Input)
    (snapshot : Snapshot)
    (announced : (run config inputs).backlog.configChanged = true)
    (focused : ∃ report ∈ snapshot.windows, report.hasFocus = true) :
    let reloaded := (run config inputs).tick snapshot
    reloaded.buttons = ((ofConfig config).tick snapshot).buttons ∧
    (∃ later,
      keysGiven config (inputs ++ [.snapshot snapshot]) = keysGiven config inputs ++ later ∧
      (∀ old ∈ keysGiven config inputs, ∀ key ∈ later, old < key) ∧
      ∀ key ∈ reloaded.model.workspaces.keys, key ∈ later) ∧
    ∀ asked texts : List String,
      let remembering : Rewriter.Remembering := { rewriter := reloaded.bar.rewriter }
      ((remembering.resolveAll asked).2.resolveAll texts).1 = (remembering.resolveAll texts).1 := by
  intro reloaded
  have bar : (run config inputs).bar = Bar.ofConfig config := bar_run config inputs
  have next : (run config inputs).nextModel snapshot =
      ((run config inputs).model.startOver (Bar.ofConfig config) snapshot).observe
        (Bar.ofConfig config) snapshot := by
    have startsOver : (run config inputs).startsOver = true := by
      rw [startsOver, announced, Bool.or_true]
    rw [nextModel_of_startsOver startsOver, bar]
  refine ⟨?_, ?_, ?_⟩
  · obtain ⟨address, found⟩ : ∃ address, snapshot.focusedAddress? = some address := by
      have found := List.find?_isSome.mpr focused
      exact Option.isSome_iff_exists.mp (Option.isSome_map.trans found)
    have untold : (ofConfig config).model.Identified := Model.identified_empty
    refine buttons_of_renumbered (run config inputs).model.lastKey bar ?_
    rw [workspaces_tick (Model.identified_run config inputs), workspaces_tick untold, next,
      values_observe_startOver found, Arrangement.sort_renumber, bar]
    rfl
  · have earlier := gives_run config inputs
    have later := gives_later config inputs [.snapshot snapshot]
    refine ⟨_, keysGiven_append config inputs [.snapshot snapshot], fun old given key new => ?_,
      fun key used => ?_⟩
    · exact Nat.lt_of_le_of_lt (earlier.bounds given).2 (later.bounds new).1
    · exact List.mem_append_left _ (mem_arisingInTick_of_configChanged announced used)
  · intro asked texts remembering
    have faithful := Rewriter.Remembering.isFaithful_new reloaded.bar.rewriter
    obtain ⟨-, kept, same⟩ := faithful.resolveAll asked
    rw [(kept.resolveAll texts).1, (faithful.resolveAll texts).1, same]

/-- Reports of one workspace with one window, which has the focus. -/
def focusedSnapshot : Snapshot :=
  { workspaces := [{ id := 1, name := "1", windows := 1 }]
    windows :=
      [{ address := "0xcd", windowClass := "term", workspace := ⟨1, "1"⟩, focusRank := 0 }] }

/-- A run in which a workspace goes and another one comes before the compositor reads its
configuration again, while the opening of a window waits. -/
def reloadingRun : List Input :=
  [.snapshot { workspaces := [{ id := 2, name := "2" }] }, .snapshot focusedSnapshot,
    .event (.window (.opened "ab" "2" "editor" "notes")), .event .configReloaded]

/-- The run has given out two keys. It starts over under the next one, and shows what a new bar
shows. -/
theorem reloaded_reloadingRun :
    (run {} reloadingRun).backlog.configChanged = true ∧
      (∃ report ∈ focusedSnapshot.windows, report.hasFocus = true) ∧
      ((run {} reloadingRun).tick focusedSnapshot).buttons =
        ((ofConfig {}).tick focusedSnapshot).buttons ∧
      keysGiven {} reloadingRun = [1, 2] ∧
      ((run {} reloadingRun).tick focusedSnapshot).display = [3] := by
  have focused : ∃ report ∈ focusedSnapshot.windows, report.hasFocus = true := by decide
  exact ⟨by decide, focused, (reload_as_new {} reloadingRun focusedSnapshot (by decide) focused).1,
    by decide, by decide⟩

end Tracker

end Deskbar
