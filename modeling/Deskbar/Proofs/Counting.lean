/-
This file says when the counter of the ticks that a window has waited for has room for one more. A
window that has been counted over what the configuration allows is forgotten, so no counter stands
higher than that when a tick begins, nor higher than there have been ticks. The tick that counts it
up once more needs room for one more only, and there is always room when the configuration allows
less than the highest number that a counter can hold.

When it allows the highest number itself, no count is ever over it. A window then waits until its
counter is full, and the next tick begins to count from zero again.
-/

import Deskbar.Config.Loader
import Deskbar.Proofs.Lifetime
import Deskbar.Proofs.Repetition

namespace Deskbar

/-- With room in its counter a window that grows older counts one more tick. -/
theorem Window.toNat_age_grow {window : Window} (room : window.age.toNat < UInt32.size - 1) :
    window.grow.age.toNat = window.age.toNat + 1 := by
  have small : window.age.toNat + 1 < UInt32.size := Nat.add_lt_of_lt_sub room
  rw [grow, UInt32.toNat_add]
  exact Nat.mod_eq_of_lt small

theorem Window.toNat_age_grow_le (window : Window) :
    window.grow.age.toNat ≤ window.age.toNat + 1 := by
  rw [grow, UInt32.toNat_add]
  exact Nat.mod_le _ _

/-- No window that grows older once more has waited for more than one more tick. -/
theorem Model.Ages.growOlder {model : Model} {count : Nat}
    (ages : model.Ages fun _ age => age.toNat ≤ count) (bar : Bar) {addresses : List String}
    (distinct : addresses.Nodup) :
    (model.growOrphans bar addresses).Ages fun _ age => age.toNat ≤ count + 1 := by
  refine ⟨fun {address window} found => ?_⟩
  rw [get?_orphans_growOrphans bar distinct] at found
  split at found
  · obtain ⟨old, waits, grown⟩ := Option.bind_eq_some_iff.mp found
    rw [Bar.grown?_eq] at grown
    split at grown
    · cases grown
    · rw [← Option.some.inj grown]
      exact old.toNat_age_grow_le.trans (Nat.succ_le_succ (ages.allowed waits))
  · exact (ages.allowed found).trans (Nat.le_succ count)

namespace Tracker

/-! ### Counts -/

/-- The windows that a tick counts up, each of them as it is when its turn comes. A tick that starts
over counts none up. -/
def counted (snapshot : Snapshot) (tracker : Tracker) : List Window :=
  if tracker.startsOver then []
  else
    noted (Model.growOrphan tracker.bar) (fun model address => (model.orphans.get? address).toList)
      (tracker.midway snapshot tracker.backlog.windows) tracker.model.orphans.keys

/-- A tick counts up the windows that have waited when it began, as they wait when all changes of
windows have been carried out. -/
theorem mem_counted_iff {tracker : Tracker} {snapshot : Snapshot} {window : Window} :
    window ∈ tracker.counted snapshot ↔
      tracker.startsOver = false ∧ ∃ address ∈ tracker.model.orphans.keys,
        (tracker.midway snapshot tracker.backlog.windows).orphans.get? address = some window := by
  rw [counted]
  cases tracker.startsOver with
  | true => exact iff_of_false List.not_mem_nil fun ⟨carriesOn, _⟩ => nomatch carriesOn
  | false =>
    rw [if_neg Bool.false_ne_true, mem_noted_iff, and_iff_right rfl]
    have distinct := tracker.model.orphans.keys_nodup
    -- The windows before it in the loop are other ones.
    have untouched : ∀ {earlier address later},
        tracker.model.orphans.keys = earlier ++ address :: later →
        (earlier.foldl (Model.growOrphan tracker.bar)
          (tracker.midway snapshot tracker.backlog.windows)).orphans.get? address =
          (tracker.midway snapshot tracker.backlog.windows).orphans.get? address := by
      intro earlier address later split
      rw [split] at distinct
      obtain ⟨before, -, apart⟩ := List.nodup_append.mp distinct
      have absent : address ∉ earlier := fun member =>
        apart address member address List.mem_cons_self rfl
      exact (Model.get?_orphans_growOrphans tracker.bar before _ address).trans (if_neg absent)
    constructor
    · rintro ⟨earlier, address, later, split, waits⟩
      rw [untouched split, Option.mem_toList] at waits
      exact ⟨address, split ▸ List.mem_append_right _ List.mem_cons_self, waits⟩
    · rintro ⟨address, member, waits⟩
      obtain ⟨earlier, later, split⟩ := List.append_of_mem member
      refine ⟨earlier, address, later, split, ?_⟩
      rw [untouched split, Option.mem_toList]
      exact waits

/-- No window has waited for more ticks than there have been. -/
theorem ages_ticks_run [Pattern.Engine] (config : BarConfig) (inputs : List Input) :
    (run config inputs).model.Ages fun _ age => age.toNat ≤ ticks inputs := by
  induction inputs using List.reverseRecOn with
  | nil => exact ⟨fun found => (by cases found)⟩
  | append_singleton before input inductionHypothesis =>
    rw [run_append]
    cases input with
    | event event =>
      rw [ticks_append_event]
      exact inductionHypothesis
    | snapshot snapshot =>
      rw [ticks_append_snapshot]
      refine Model.Ages.observe ?_ _ snapshot
      split
      · exact (ages_midway inductionHypothesis (fun _ => Nat.zero_le _) snapshot
          (run config before).backlog.windows).growOlder _
            (run config before).model.orphans.keys_nodup
      · exact Model.Ages.startOver (fun _ => Nat.zero_le _) _ snapshot _

/-- No tick counts up a window whose counter is full, unless the configuration allows the highest
number that a counter can hold and there have been that many ticks before. The counter then stands
one higher, and the window is forgotten exactly if that is more than the configuration allows. -/
theorem counted_run [Pattern.Engine] (config : BarConfig) {inputs : List Input}
    (limited : config.retryBudget.toNat < UInt32.size - 1 ∨ ticks inputs < UInt32.size - 1)
    (snapshot : Snapshot) {window : Window}
    (counts : window ∈ (run config inputs).counted snapshot) :
    window.age.toNat < UInt32.size - 1 ∧ window.grow.age.toNat = window.age.toNat + 1 ∧
      ((Bar.ofConfig config).outgrows window = true ↔
        config.retryBudget.toNat < window.age.toNat + 1) := by
  obtain ⟨-, address, -, waits⟩ := mem_counted_iff.mp counts
  have room : window.age.toNat < UInt32.size - 1 := by
    rcases limited with allowed | few
    · have ages := ages_midway (ages_run config inputs)
        (fun _ => UInt32.le_iff_toNat_le.mpr (Nat.zero_le _)) snapshot
        (run config inputs).backlog.windows
      exact (UInt32.le_iff_toNat_le.mp (ages.allowed waits)).trans_lt allowed
    · have ages := ages_midway (ages_ticks_run config inputs) (fun _ => Nat.zero_le _) snapshot
        (run config inputs).backlog.windows
      exact (ages.allowed waits).trans_lt few
  have grown := Window.toNat_age_grow room
  refine ⟨room, grown, ?_⟩
  rw [Bar.outgrows, decide_eq_true_eq, UInt32.lt_iff_toNat_lt, grown]
  exact Iff.rfl

theorem counted_run_sampleRun :
    let config : BarConfig := { retryBudget := 0 }
    let window : Window :=
      { address := "ab", workspace := "2", active := false, age := 0,
        appearance := .identity "editor" "notes" }
    (config.retryBudget.toNat < UInt32.size - 1 ∨ ticks sampleRun < UInt32.size - 1) ∧
      window ∈ (run config sampleRun).counted sampleSnapshot ∧
      window.age.toNat < UInt32.size - 1 ∧ window.grow.age.toNat = window.age.toNat + 1 ∧
      ((Bar.ofConfig config).outgrows window = true ↔
        config.retryBudget.toNat < window.age.toNat + 1) := by
  intro config window
  have limited : config.retryBudget.toNat < UInt32.size - 1 ∨ ticks sampleRun < UInt32.size - 1 :=
    Or.inl (by decide)
  have counts : window ∈ (run config sampleRun).counted sampleSnapshot := by decide
  exact ⟨limited, counts, counted_run config limited sampleSnapshot counts⟩

/-! ### Full counters -/

section Idle

variable [Pattern.Engine] {config : BarConfig} {inputs : List Input} {snapshot : Snapshot}

/-- Ticks leave nothing to do. -/
theorem idle_replicate (snapshot : Snapshot)
    (idle : (run config inputs).backlog.isEmpty = true) (count : Nat) :
    (run config (inputs ++ List.replicate count (.snapshot snapshot))).backlog.isEmpty = true := by
  cases count with
  | zero => rwa [List.replicate_zero, List.append_nil]
  | succ before =>
    rw [List.replicate_succ', ← List.append_assoc, run_append]
    rfl

variable (idle : (run config inputs).backlog.isEmpty = true)
  (distinct : (snapshot.workspaces.map ReportedWorkspace.id).Nodup)

include idle distinct

/-- Of two ticks with nothing to do the second one only lets windows that wait grow older. -/
theorem get?_orphans_tick_tick (address : String) :
    (((run config inputs).tick snapshot).tick snapshot).model.orphans.get? address =
      (((run config inputs).tick snapshot).model.orphans.get? address).bind
        (Bar.ofConfig config).grown? := by
  rw [tick_tick_eq (Model.identified_run config inputs) idle distinct]
  have sameBar : ((run config inputs).tick snapshot).bar = Bar.ofConfig config :=
    bar_run config inputs
  rw [← sameBar]
  exact Model.get?_orphans_growAll _ _ address

/-- The second one of two ticks with nothing to do counts up the windows that wait, as they are. -/
theorem mem_counted_tick {address : String} {window : Window}
    (waits : ((run config inputs).tick snapshot).model.orphans.get? address = some window) :
    window ∈ ((run config inputs).tick snapshot).counted snapshot := by
  obtain ⟨settled, -⟩ := settled_nextModel (Model.identified_run config inputs) idle distinct
  refine mem_counted_iff.mpr ⟨rfl, address, SortedMap.mem_keys_iff.mpr ⟨window, waits⟩, ?_⟩
  have nothing : ((run config inputs).tick snapshot).midway snapshot [] =
      ((run config inputs).tick snapshot).model := by
    show (((run config inputs).nextModel snapshot).align (run config inputs).bar snapshot
      []).addAllDeclared (run config inputs).bar = (run config inputs).nextModel snapshot
    rw [settled.align_eq_self distinct, settled.addAllDeclared_eq_self]
  exact (congrArg (fun model => model.orphans.get? address) nothing).trans waits

/-- In ticks with nothing to do the counter of a window that waits goes up one by one, as far as the
configuration allows. -/
theorem age_replicate {address : String} {window : Window}
    (waits : ((run config inputs).tick snapshot).model.orphans.get? address = some window)
    (count : Nat) (within : window.age.toNat + count ≤ config.retryBudget.toNat) :
    ∃ later : Window,
      ((run config (inputs ++ List.replicate count (.snapshot snapshot))).tick
        snapshot).model.orphans.get? address = some later ∧
        later.age.toNat = window.age.toNat + count := by
  induction count with
  | zero =>
    rw [List.replicate_zero, List.append_nil]
    exact ⟨window, waits, rfl⟩
  | succ before inductionHypothesis =>
    obtain ⟨old, oldWaits, aged⟩ := inductionHypothesis (Nat.le_of_succ_le within)
    have ticked := get?_orphans_tick_tick (idle_replicate snapshot idle before) distinct address
    have full : old.age.toNat < UInt32.size - 1 := by
      have highest := config.retryBudget.toNat_lt
      rw [aged]
      exact lt_of_lt_of_le within (Nat.le_sub_one_of_lt highest)
    have grown := Window.toNat_age_grow full
    have young : ¬(Bar.ofConfig config).config.retryBudget < old.grow.age := by
      rw [UInt32.not_lt, UInt32.le_iff_toNat_le, grown, aged]
      exact within
    rw [oldWaits, Option.bind_some, Bar.grown?_eq, if_neg young] at ticked
    refine ⟨old.grow, ?_, grown.trans (congrArg Nat.succ aged)⟩
    rw [List.replicate_succ', ← List.append_assoc, run_append]
    exact ticked

end Idle

/-- A window waits for a workspace that never comes, and the configuration allows as many ticks as a
counter can hold, as any number beyond that is read too. After that many ticks the counter is full,
and the next tick counts it up to zero: the window waits as if it had just begun to. -/
theorem not_counted_boundless :
    let config : BarConfig := { retryBudget := 4294967295 }
    let node : Node :=
      { name := "window-retry-budget"
        entries := [{ name := none, value := .whole 5000000000 }]
        children := [] }
    let tracker :=
      (run config (sampleRun ++ List.replicate (UInt32.size - 2) (.snapshot sampleSnapshot))).tick
        sampleSnapshot
    BarConfig.set {} node = .ok config ∧
      ∃ window ∈ tracker.counted sampleSnapshot,
        window.age.toNat = UInt32.size - 1 ∧ window.grow.age = 0 ∧
          (tracker.tick sampleSnapshot).model.orphans.get? "ab" = some window.grow := by
  intro config node tracker
  refine ⟨by decide, ?_⟩
  have idle : (run config sampleRun).backlog.isEmpty = true := by decide
  have distinct : (sampleSnapshot.workspaces.map ReportedWorkspace.id).Nodup := by decide
  have waits : ((run config sampleRun).tick sampleSnapshot).model.orphans.get? "ab" =
      some { address := "ab", workspace := "2", active := false, age := 1,
             appearance := .identity "editor" "notes" } := by decide
  obtain ⟨window, waitsOn, aged⟩ := age_replicate idle distinct waits (UInt32.size - 2) (by decide)
  have full : window.age.toNat = UInt32.size - 1 := aged
  have wrapped : window.grow.age = 0 := by
    rw [← UInt32.toNat_inj, Window.grow, UInt32.toNat_add, full]
    rfl
  have stillIdle := idle_replicate sampleSnapshot idle (UInt32.size - 2)
  have ticked := get?_orphans_tick_tick stillIdle distinct "ab"
  rw [waitsOn, Option.bind_some, Bar.grown?_eq, wrapped, if_neg (by decide)] at ticked
  exact ⟨window, mem_counted_tick stillIdle distinct waitsOn, full, wrapped, ticked⟩

end Tracker

end Deskbar
