/-
This file says for how long windows wait. No window has ever waited for more ticks than the
configuration allows. A window that begins to wait in a tick has waited for no tick at its end,
grows older by one in each tick that lets it wait on, and is forgotten in the first one that brings
it over what is allowed. Where it waits does not matter for this, nor what is announced about it
meanwhile.
-/

import Deskbar.Proofs.Handing

namespace Deskbar

namespace Model

/-! ### How long windows have waited -/

/-- Whether every window that waits has waited for a time that is allowed for its address. -/
structure Ages (allows : String → UInt32 → Prop) (model : Model) : Prop where
  allowed : ∀ {key window}, model.orphans.get? key = some window →
    allows window.address window.age

namespace Ages

variable {allows : String → UInt32 → Prop} {model : Model}

theorem of_sheds {before after : Model} (ages : before.Ages allows)
    (fewer : Sheds before.orphans after.orphans) : after.Ages allows :=
  ⟨fun found => ages.allowed (fewer.kept found)⟩

/-- A window that waits may change if it keeps its address and its age. -/
theorem modify (ages : model.Ages allows) (address : String) {change : Window → Window}
    (kept : ∀ window, (change window).address = window.address ∧
      (change window).age = window.age) :
    { model with orphans := model.orphans.modify address change }.Ages allows := by
  refine ⟨fun {key window} found => ?_⟩
  rw [SortedMap.get?_modify] at found
  split at found
  · obtain ⟨old, oldFound, rfl⟩ := Option.map_eq_some_iff.mp found
    rw [(kept old).1, (kept old).2]
    exact ages.allowed oldFound
  · exact ages.allowed found

theorem orphan (ages : model.Ages allows) {window : Window}
    (allowed : allows window.address window.age) : (model.orphan window).Ages allows := by
  refine ⟨fun {key waiting} found => ?_⟩
  rw [get?_orphans_orphan] at found
  split at found
  · rw [← Option.some.inj found]
    exact allowed
  · exact (ages.of_sheds (Sheds.withdraw window.address model)).allowed found

theorem settle (ages : model.Ages allows) (bar : Bar) {window : Window}
    (allowed : allows window.address window.age) : (model.settle bar window).Ages allows := by
  rw [Model.settle]
  split
  · exact ages.of_sheds (Sheds.place ..)
  · exact ages.orphan allowed

theorem shareFocus (ages : model.Ages allows) : model.shareFocus.Ages allows := by
  have told : model.focusWorkspaces.Ages allows := ages.of_sheds (Sheds.refl model.orphans)
  exact List.foldlRecOn _ _ told fun _ kept address _ => kept.modify address fun _ => ⟨rfl, rfl⟩

theorem observe (ages : model.Ages allows) (bar : Bar) (snapshot : Snapshot) :
    (model.observe bar snapshot).Ages allows :=
  shareFocus (ages.of_sheds (Sheds.refl model.orphans))

/-- A window that has grown older and is not forgotten has not waited for too long. -/
theorem growOrphans {bar : Bar} (ages : model.Ages fun _ age => age ≤ bar.config.retryBudget)
    (addresses : List String) :
    (model.growOrphans bar addresses).Ages fun _ age => age ≤ bar.config.retryBudget := by
  refine List.foldlRecOn _ _ ages fun next kept address _ => ⟨fun {key window} found => ?_⟩
  rw [get?_orphans_growOrphan] at found
  split at found
  · obtain ⟨old, -, grown⟩ := Option.bind_eq_some_iff.mp found
    rw [Bar.grown?_eq] at grown
    split at grown
    · cases grown
    · next young =>
      rw [← Option.some.inj grown]
      exact UInt32.not_lt.mp young
  · exact kept.allowed found

section Fresh

variable (fresh : ∀ address, allows address 0)

include fresh

/-- A window of a removed workspace begins to wait. -/
theorem abandon (ages : model.Ages allows) (snapshot : Snapshot) (entry : String × String) :
    (model.abandon snapshot entry).Ages allows := by
  have unindexed : { model with owners := model.owners.erase entry.1 }.Ages allows :=
    ages.of_sheds (Sheds.refl model.orphans)
  rw [Model.abandon]
  split
  · exact unindexed.orphan (fresh _)
  · exact unindexed

theorem remove (ages : model.Ages allows) (snapshot : Snapshot) (key : Nat) :
    (model.remove snapshot key).Ages allows := by
  cases present : model.workspaces.get? key with
  | none => rwa [remove_of_absent snapshot present]
  | some workspace =>
    have sameOrphans : (model.withoutWindows key workspace).orphans = model.orphans := by
      rw [withoutWindows]
      split <;> rfl
    rw [remove_eq snapshot present]
    exact List.foldlRecOn _ _ (ages.of_sheds (sameOrphans ▸ Sheds.refl model.orphans))
      fun _ kept entry _ => kept.abandon fresh snapshot entry

/-- The work on workspaces lets windows begin to wait and changes nothing for those that do. -/
theorem stepwise (bar : Bar) (snapshot : Snapshot) :
    Stepwise bar snapshot fun before after => before.Ages allows → after.Ages allows where
  refl _ := id
  trans earlier later ages := later (earlier ages)
  replace _ _ _ _ _ ages := ages.of_sheds (Sheds.refl _)
  claim model key ages := ages.of_sheds (Sheds.claim bar key model)
  remove _ key ages := ages.remove fresh snapshot key
  ensure model report ages := ages.of_sheds (Sheds.ensure bar snapshot report model)
  declare model raw ages := by
    rw [addDeclared]
    dsimp only
    split
    · exact ages.of_sheds (Sheds.refl model.orphans)
    · exact ages

theorem moveWindow (ages : model.Ages allows) (bar : Bar) (snapshot : Snapshot)
    (address target : String) : (model.moveWindow bar snapshot address target).Ages allows := by
  have withdrawn := ages.of_sheds (Sheds.withdraw address model)
  rw [Model.moveWindow]
  dsimp only
  split
  · next window found =>
    refine withdrawn.settle bar ?_
    rcases Option.or_eq_some_iff.mp found with taken | ⟨-, reported⟩
    · obtain ⟨origin, fromOwner, rfl⟩ := Option.map_eq_some_iff.mp taken
      show allows origin.address origin.age
      rw [withdraw] at fromOwner
      split at fromOwner
      · cases fromOwner
      · dsimp only at fromOwner
        split at fromOwner
        · cases fromOwner
        · obtain ⟨text, -, rfl⟩ := Option.map_eq_some_iff.mp fromOwner
          exact fresh _
      · exact ages.allowed fromOwner
    · obtain ⟨report, -, rfl⟩ := Option.map_eq_some_iff.mp reported
      exact fresh _
  · exact withdrawn

theorem applyWindowChange (ages : model.Ages allows) (bar : Bar) (snapshot : Snapshot)
    (change : WindowChange) : (model.applyWindowChange bar snapshot change).Ages allows := by
  cases change with
  | opened address target windowClass title =>
    rw [Model.applyWindowChange, openWindow]
    split
    · exact ages
    · exact ages.settle bar (fresh _)
  | closed address => exact ages.of_sheds (Sheds.withdraw ..)
  | moved address target => exact ages.moveWindow fresh bar snapshot _ target
  | retitled address title =>
    rw [Model.applyWindowChange, retitleWindow]
    split
    · exact ages.of_sheds (Sheds.refl model.orphans)
    · split
      · refine ages.modify _ fun window => ?_
        rw [Window.retitle?]
        split <;> exact ⟨rfl, rfl⟩
      · exact ages
    · exact ages
  | urgent address =>
    rw [Model.applyWindowChange, markUrgent]
    split
    · exact ages.of_sheds (Sheds.refl model.orphans)
    · exact ages
  | focused address => exact shareFocus (ages.of_sheds (Sheds.refl model.orphans))

theorem applyWindowChanges (ages : model.Ages allows) (bar : Bar) (snapshot : Snapshot)
    (changes : List WindowChange) :
    (model.applyWindowChanges bar snapshot changes).Ages allows :=
  List.foldlRecOn _ _ ages fun _ kept change _ => kept.applyWindowChange fresh bar snapshot change

/-- Nothing waits when the model starts over, and what begins to wait then has just done so. -/
theorem startOver (bar : Bar) (snapshot : Snapshot) (model : Model) :
    (model.startOver bar snapshot).Ages allows := by
  refine (stepwise fresh bar snapshot).addAllDeclared _
    ((stepwise fresh bar snapshot).align [] _ ?_)
  refine ⟨fun {key window} found => ?_⟩
  cases found

end Fresh

end Ages

end Model

/-! ### Ticks -/

namespace Tracker

theorem ages_midway {allows : String → UInt32 → Prop} {tracker : Tracker}
    (ages : tracker.model.Ages allows) (fresh : ∀ address, allows address 0) (snapshot : Snapshot)
    (done : List WindowChange) : (tracker.midway snapshot done).Ages allows :=
  ((Model.Ages.stepwise fresh tracker.bar snapshot).beforeWindowChanges tracker.backlog.workspaces
    tracker.model ages).applyWindowChanges fresh tracker.bar snapshot done

/-- No window that waits after a tick has waited for too long, whether the tick starts over or
carries on. -/
theorem ages_nextModel {tracker : Tracker}
    (ages : tracker.model.Ages fun _ age => age ≤ tracker.bar.config.retryBudget)
    (snapshot : Snapshot) :
    (tracker.nextModel snapshot).Ages fun _ age => age ≤ tracker.bar.config.retryBudget := by
  have fresh : ∀ _ : String, (0 : UInt32) ≤ tracker.bar.config.retryBudget :=
    fun _ => UInt32.le_iff_toNat_le.mpr (Nat.zero_le _)
  refine Model.Ages.observe ?_ tracker.bar snapshot
  split
  · exact (ages_midway ages fresh snapshot tracker.backlog.windows).growOrphans
      tracker.model.orphans.keys
  · exact Model.Ages.startOver fresh tracker.bar snapshot tracker.model

theorem ages_run [Pattern.Engine] (config : BarConfig) (inputs : List Input) :
    (run config inputs).model.Ages fun _ age => age ≤ config.retryBudget := by
  have every : (run config inputs).bar = Bar.ofConfig config ∧
      (run config inputs).model.Ages fun _ age =>
        age ≤ (run config inputs).bar.config.retryBudget := by
    refine run_induction
      (motive := fun tracker => tracker.bar = Bar.ofConfig config ∧
        tracker.model.Ages fun _ age => age ≤ tracker.bar.config.retryBudget)
      ⟨rfl, ⟨fun {key window} found => ?_⟩⟩ fun tracker ⟨bar, ages⟩ input _ => ?_
    · cases found
    · cases input with
      | event event => exact ⟨bar, ages⟩
      | snapshot snapshot => exact ⟨bar, ages_nextModel ages snapshot⟩
  have bar := every.1
  rw [bar] at every
  exact every.2

/-- Where a window is after a tick that carries on: it was there when the changes of windows had
been carried out, has grown older if it waited when the tick began, and knows whether it has the
focus. -/
theorem locates_tick {tracker : Tracker} {snapshot : Snapshot}
    (carriesOn : tracker.startsOver = false) {address : String} {place : Place}
    (located : (tracker.midway snapshot tracker.backlog.windows).Locates address place) :
    (tracker.tick snapshot).model.Locates address
      ((if address ∈ tracker.model.orphans.keys then place.older tracker.bar else place).told
        ((tracker.tick snapshot).model.hasFocusOn address)) := by
  have ticked : (tracker.tick snapshot).model =
      ((tracker.midway snapshot tracker.backlog.windows).growOrphans tracker.bar
        tracker.model.orphans.keys).observe tracker.bar snapshot :=
    nextModel_of_not_startsOver carriesOn snapshot
  rw [ticked]
  exact Model.locates_observe tracker.bar snapshot
    (Model.locates_growOrphans tracker.bar tracker.model.orphans.keys_nodup located)

section Waiting

variable {tracker : Tracker} {snapshot : Snapshot} {address : String}

/-- A window that did not wait before a tick and waits after it has waited for no tick. -/
theorem waits_tick_of_absent (sound : tracker.model.Sound)
    (snapshotAddressed : snapshot.IsAddressed)
    (addressed : ∀ change ∈ tracker.backlog.windows, change.IsAddressed)
    (carriesOn : tracker.startsOver = false) (absent : tracker.model.orphans.get? address = none)
    (waits : ((tracker.tick snapshot).model.orphans.get? address).isSome = true) :
    (tracker.tick snapshot).model.Waits address 0 := by
  have reachedSound := sound_midway sound snapshotAddressed addressed
  obtain ⟨place, located, fits⟩ := reachedSound.owned.located address
  have after := locates_tick carriesOn located
  rw [if_neg (SortedMap.get?_eq_none_iff.mp absent)] at after
  rw [after.orphan] at waits
  cases place with
  | nowhere => cases waits
  | shown key text => cases waits
  | waiting window =>
    -- No window under another address has this one, so none has waited under it before.
    have ages : tracker.model.Ages fun other age => other = address → age = 0 := by
      refine ⟨fun {key old} found same => ?_⟩
      rw [← (sound.owned.waiting found).2.1, same, absent] at found
      cases found
    have reached := ages_midway ages (fun _ _ => rfl) snapshot tracker.backlog.windows
    have begun : window.age = 0 := reached.allowed located.orphan fits.1
    exact ⟨_, after, begun⟩

/-- A window that a tick lets wait on grows older in it. -/
theorem waits_tick (sound : tracker.model.Sound) (snapshotAddressed : snapshot.IsAddressed)
    (addressed : ∀ change ∈ tracker.backlog.windows, change.IsAddressed) {age : UInt32}
    (waits : tracker.model.Waits address age) (letsWait : tracker.LetsWait address snapshot) :
    if tracker.bar.config.retryBudget < age + 1 then
      (tracker.tick snapshot).model.Locates address .nowhere
    else (tracker.tick snapshot).model.Waits address (age + 1) := by
  have aging : address ∈ tracker.model.orphans.keys := by
    obtain ⟨before, here, -⟩ := waits
    exact SortedMap.mem_keys_iff.mpr ⟨before, here.orphan⟩
  obtain ⟨window, located, rfl⟩ := waits_midway sound snapshotAddressed addressed waits letsWait
  have after := locates_tick letsWait.carriesOn located
  have grown : window.grow.age = window.age + 1 := rfl
  rw [if_pos aging, Place.older, Bar.grown?_eq, grown] at after
  split
  · next outgrown =>
    rw [if_pos outgrown] at after
    exact after
  · next young =>
    rw [if_neg young] at after
    exact ⟨_, after, rfl⟩

/-- Of the ticks that a window has waited for, each one that lets it wait on is one more, and the
first one beyond what is allowed is the last. -/
theorem waits_tick_count (limited : tracker.bar.config.retryBudget.toNat < UInt32.size - 1)
    (sound : tracker.model.Sound) (snapshotAddressed : snapshot.IsAddressed)
    (addressed : ∀ change ∈ tracker.backlog.windows, change.IsAddressed) {age : UInt32}
    (within : age.toNat ≤ tracker.bar.config.retryBudget.toNat)
    (waits : tracker.model.Waits address age) (letsWait : tracker.LetsWait address snapshot) :
    (age.toNat + 1 ≤ tracker.bar.config.retryBudget.toNat →
      ∃ later : UInt32, (tracker.tick snapshot).model.Waits address later ∧
        later.toNat = age.toNat + 1) ∧
      (age.toNat = tracker.bar.config.retryBudget.toNat →
        (tracker.tick snapshot).model.Locates address .nowhere) := by
  have small : age.toNat + 1 < UInt32.size :=
    (Nat.succ_le_succ within).trans_lt (Nat.add_lt_of_lt_sub limited)
  have counted : (age + 1).toNat = age.toNat + 1 := by
    rw [UInt32.toNat_add]
    exact Nat.mod_eq_of_lt small
  have ticked := waits_tick sound snapshotAddressed addressed waits letsWait
  constructor
  · intro young
    rw [← counted] at young
    rw [if_neg (UInt32.not_lt.mpr (UInt32.le_iff_toNat_le.mpr young))] at ticked
    exact ⟨age + 1, ticked, counted⟩
  · intro old
    have outgrown : tracker.bar.config.retryBudget < age + 1 := by
      rw [UInt32.lt_iff_toNat_lt, counted, old]
      exact Nat.lt_succ_self _
    rwa [if_pos outgrown] at ticked

end Waiting

/-! ### Runs -/

/-- How many ticks there are in a run. -/
def ticks (inputs : List Input) : Nat :=
  inputs.countP fun input =>
    match input with
    | .event _ => false
    | .snapshot _ => true

theorem ticks_append_event (inputs : List Input) (event : Event) :
    ticks (inputs ++ [.event event]) = ticks inputs := List.countP_append

theorem ticks_append_snapshot (inputs : List Input) (snapshot : Snapshot) :
    ticks (inputs ++ [.snapshot snapshot]) = ticks inputs + 1 := List.countP_append

section Runs

variable {config : BarConfig} {inputs later : List Input} {snapshot : Snapshot} {address : String}

/-- A window that begins to wait in a tick has waited for the ticks after it, as long as they let it
wait on and are no more than the configuration allows, and is nowhere after one more. -/
theorem waits_run [Pattern.Engine] (limited : config.retryBudget.toNat < UInt32.size - 1)
    (addressed : AreAddressed (inputs ++ .snapshot snapshot :: later))
    (carriesOn : (run config inputs).startsOver = false)
    (absent : (run config inputs).model.orphans.get? address = none)
    (waits : (((run config inputs).tick snapshot).model.orphans.get? address).isSome = true)
    (letsWait : EveryTick (LetsWait address) ((run config inputs).tick snapshot) later) :
    let last := run config (inputs ++ .snapshot snapshot :: later)
    (ticks later ≤ config.retryBudget.toNat →
      ∃ age : UInt32, last.model.Waits address age ∧ age.toNat = ticks later) ∧
      (ticks later = config.retryBudget.toNat + 1 → last.model.Locates address .nowhere) := by
  induction later using List.reverseRecOn with
  | nil =>
    have inputsAddressed : AreAddressed inputs :=
      fun input member => addressed input (List.mem_append_left _ member)
    obtain ⟨sound, changes⟩ := sound_run config inputsAddressed
    have snapshotAddressed := addressed.snapshot (List.mem_append_right _ List.mem_cons_self)
    have begun := waits_tick_of_absent sound snapshotAddressed changes carriesOn absent waits
    rw [run_append]
    exact ⟨fun _ => ⟨0, begun, rfl⟩, fun beyond => absurd beyond (Nat.succ_ne_zero _).symm⟩
  | append_singleton before input inductionHypothesis =>
    rw [← List.cons_append, ← List.append_assoc] at addressed
    rw [← List.cons_append, ← List.append_assoc, run_append]
    obtain ⟨every, last⟩ := EveryTick.append_iff.mp letsWait
    have earlierAddressed : AreAddressed (inputs ++ .snapshot snapshot :: before) :=
      fun other member => addressed other (List.mem_append_left _ member)
    obtain ⟨waited, gone⟩ := inductionHypothesis earlierAddressed every
    have reached : before.foldl accept ((run config inputs).tick snapshot) =
        run config (inputs ++ .snapshot snapshot :: before) :=
      (run_resume config inputs (.snapshot snapshot :: before)).symm
    rw [reached] at last
    cases input with
    | event event =>
      rw [ticks_append_event]
      exact ⟨waited, gone⟩
    | snapshot reports =>
      rw [ticks_append_snapshot]
      obtain ⟨sound, changes⟩ := sound_run config earlierAddressed
      have reportsAddressed := addressed.snapshot (List.mem_append_right _ List.mem_cons_self)
      -- There has been no tick too many before this one, so the window still waits.
      have step : ticks before ≤ config.retryBudget.toNat →
          (ticks before + 1 ≤ config.retryBudget.toNat → ∃ later : UInt32,
            ((run config (inputs ++ .snapshot snapshot :: before)).tick reports).model.Waits
              address later ∧ later.toNat = ticks before + 1) ∧
            (ticks before = config.retryBudget.toNat →
              ((run config (inputs ++ .snapshot snapshot :: before)).tick reports).model.Locates
                address .nowhere) := by
        intro within
        obtain ⟨age, waits, aged⟩ := waited within
        rw [← aged] at within
        have counted := waits_tick_count (by rw [bar_run]; exact limited) sound reportsAddressed
          changes (by rw [bar_run]; exact within) waits last.1
        rwa [bar_run, aged] at counted
      constructor
      · intro within
        exact (step (Nat.le_of_succ_le within)).1 within
      · intro beyond
        have reachedBudget := Nat.succ.inj beyond
        exact (step reachedBudget.le).2 reachedBudget

end Runs

/-- After every tick of every run no window that waits has waited for more ticks than the
configuration allows. After a run with addresses as the compositor writes them, a window that begins
to wait in a tick that carries on, and that the ticks from then on let wait, still waits after as
many ticks as the configuration allows, and is known to nobody after one more. It does not matter
whether it is opened again under the reference that it waits for, gets another title, becomes
urgent, has the focus or is moved between workspaces that are not there. -/
theorem lifetime_run [Pattern.Engine] (config : BarConfig)
    (limited : config.retryBudget.toNat < UInt32.size - 1) :
    (∀ inputs snapshot address window,
      ((run config inputs).tick snapshot).model.orphans.get? address = some window →
        window.age ≤ config.retryBudget) ∧
      ∀ {inputs later : List Input} {snapshot : Snapshot} {address : String},
        AreAddressed (inputs ++ .snapshot snapshot :: later) →
        (run config inputs).startsOver = false →
        (run config inputs).model.orphans.get? address = none →
        let first := (run config inputs).tick snapshot
        (first.model.orphans.get? address).isSome = true →
        EveryTick (LetsWait address) first later →
        let last := later.foldl accept first
        (ticks later ≤ config.retryBudget.toNat →
          ∃ window, last.model.orphans.get? address = some window ∧
            window.age.toNat = ticks later) ∧
          (ticks later = config.retryBudget.toNat + 1 →
            last.model.orphans.get? address = none ∧ last.model.owners.get? address = none) := by
  refine ⟨fun inputs snapshot address window found => ?_, ?_⟩
  · have ages := ages_run config (inputs ++ [.snapshot snapshot])
    rw [run_append] at ages
    exact ages.allowed found
  · intro inputs later snapshot address addressed carriesOn absent first waits letsWait last
    have reached : run config (inputs ++ .snapshot snapshot :: later) = last :=
      run_resume config inputs (.snapshot snapshot :: later)
    obtain ⟨waited, gone⟩ := waits_run limited addressed carriesOn absent waits letsWait
    rw [reached] at waited gone
    constructor
    · intro within
      obtain ⟨age, ⟨window, located, rfl⟩, aged⟩ := waited within
      exact ⟨window, located.orphan, aged⟩
    · intro beyond
      exact ⟨(gone beyond).orphan, (gone beyond).owner⟩

/-- A run at whose end a window is to be opened on a workspace that is not reported. -/
def patientRun : List Input :=
  [.snapshot sampleSnapshot, .event (.window (.opened "ab" "2" "editor" "notes"))]

/-- Two ticks and, before them, changes of a window that waits which do not end its waiting. -/
def restlessRun : List Input :=
  [.event (.window (.moved "ab" "3")), .event (.window (.urgent "ab")), .snapshot sampleSnapshot,
    .event (.window (.opened "ab" "3" "editor" "notes")),
    .event (.window (.retitled "ab" (some "drafts"))), .event (.window (.focused (some "ab"))),
    .snapshot sampleSnapshot]

theorem lifetime_run_restlessRun :
    let config : BarConfig := { retryBudget := 1 }
    let first := (run config patientRun).tick sampleSnapshot
    config.retryBudget.toNat < UInt32.size - 1 ∧
      AreAddressed (patientRun ++ .snapshot sampleSnapshot :: restlessRun) ∧
      (run config patientRun).startsOver = false ∧
      (run config patientRun).model.orphans.get? "ab" = none ∧
      (first.model.orphans.get? "ab").isSome = true ∧
      EveryTick (LetsWait "ab") first restlessRun ∧
      ticks restlessRun = config.retryBudget.toNat + 1 ∧
      (restlessRun.foldl accept first).model.orphans.get? "ab" = none ∧
      (restlessRun.foldl accept first).model.owners.get? "ab" = none := by
  intro config first
  have addressed : AreAddressed (patientRun ++ .snapshot sampleSnapshot :: restlessRun) := by
    simp [AreAddressed, patientRun, restlessRun, sampleSnapshot, Input.addresses,
      WindowChange.address?, isAddress_reported, isAddress_announced]
  have limited : config.retryBudget.toNat < UInt32.size - 1 := by decide
  have letsWait : EveryTick (LetsWait "ab") first restlessRun :=
    ⟨⟨by decide, by decide, by decide⟩, ⟨by decide, by decide, by decide⟩, trivial⟩
  have waits : (first.model.orphans.get? "ab").isSome = true := by decide
  obtain ⟨-, lifetime⟩ := lifetime_run config limited
  obtain ⟨-, gone⟩ := lifetime addressed (by decide) (by decide) waits letsWait
  exact ⟨limited, addressed, by decide, by decide, waits, letsWait, by decide, gone (by decide)⟩

/-- A report of a workspace with a window whose address has a lead behind its lead. -/
def ledTwiceSnapshot : Snapshot :=
  { workspaces := [{ id := 1, name := "1", windows := 1 }]
    windows := [{ address := "0x0xa", windowClass := "term", workspace := ⟨1, "1"⟩ }] }

/-- When the workspace is gone its window begins to wait under the address of another one that
waits, and takes the place of that one: under this address a window waits that has waited for one
tick. -/
theorem not_lifetime_ledTwice :
    let config : BarConfig := { retryBudget := 1 }
    let inputs : List Input :=
      [.snapshot ledTwiceSnapshot, .event (.window (.opened "a" "9" "term" "shell"))]
    let later : List Input :=
      [.snapshot ledTwiceSnapshot, .snapshot { ledTwiceSnapshot with workspaces := [] }]
    let first := (run config inputs).tick ledTwiceSnapshot
    (run config inputs).startsOver = false ∧
      (run config inputs).model.orphans.get? "a" = none ∧
      (first.model.orphans.get? "a").isSome = true ∧
      EveryTick (LetsWait "a") first later ∧
      ticks later = config.retryBudget.toNat + 1 ∧
      ((later.foldl accept first).model.orphans.get? "a").isSome = true := by
  intro config inputs later first
  have letsWait : EveryTick (LetsWait "a") first later :=
    ⟨⟨by decide, by decide, by decide⟩, ⟨by decide, by decide, by decide⟩, trivial⟩
  exact ⟨by decide, by decide, by decide, letsWait, by decide, by decide⟩

end Tracker

end Deskbar
