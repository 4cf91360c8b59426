/-
This file follows the keys of workspaces through a run. The keys that come into use are read off the
models that a tick passes through: a key comes into use in a step if a workspace stands under it
after the step and none did before. They are written down step by step, so a workspace that comes
and goes within one tick leaves its key behind.

A step brings at most one key into use, the number after the last one, which is counted from then
on. So the keys of a run are 1, 2, 3 and so on in this order, and a key whose workspace has gone
does not come into use again, not even when the bar starts over.
-/

import Deskbar.Proofs.Identity

namespace Deskbar

theorem SortedMap.keys_mapValues {Key Value Result : Type} [Ord Key] (map : SortedMap Key Value)
    (change : Value → Result) : (map.mapValues change).keys = map.keys := by
  rw [keys, keys, mapValues, List.map_map]
  rfl

namespace Model

/-! ### Keys that come into use -/

/-- The keys under which a workspace stands after a step and none stood before it. -/
def arising (before after : Model) : List Nat :=
  after.workspaces.keys.filter fun key => !before.workspaces.contains key

/-- The keys that come into use in the steps of a loop, in the order of the steps. -/
def arisingIn {Item : Type} (step : Model → Item → Model) : Model → List Item → List Nat :=
  noted step fun model item => model.arising (step model item)

/-- The keys that come into use while the workspaces are made to agree with the reports and with
what is declared. -/
def arisingInAgreement (bar : Bar) (snapshot : Snapshot) (excluded : List String)
    (model : Model) : List Nat :=
  let left := model.removeStale bar snapshot
  arisingIn (fun model key => model.remove snapshot key) model
      ((model.workspaces.values.filter (isStale bar snapshot)).map Workspace.key) ++
    arisingIn (fun model report => model.ensure bar snapshot report) left
      ((sortBy (compareOn ReportedWorkspace.id) snapshot.workspaces).filter fun report =>
        !excluded.contains (shownName report.name)) ++
    arisingIn (addDeclared bar) (left.ensureAll bar snapshot excluded) bar.persistent

/-- The keys that come into use while the announced changes of workspaces are carried out and the
workspaces are made to agree with the reports. -/
def arisingInWork (bar : Bar) (snapshot : Snapshot) (changes : List WorkspaceChange)
    (model : Model) : List Nat :=
  let left := model.removeDestroyed snapshot changes
  arisingIn (removeIfDestroyed snapshot) model changes ++
    arisingIn (applyChange bar snapshot) left changes ++
      (left.applyChanges bar snapshot changes).arisingInAgreement bar snapshot
        (changes.filterMap destroyedName?)

/-- A model that only knows the last key and the focus. -/
def cleared (model : Model) : Model :=
  { model with
    workspaces := SortedMap.empty
    owners := SortedMap.empty
    orphans := SortedMap.empty }

/-! ### Numbers that follow the last key -/

/-- All keys in use have been counted. -/
def IsCounted (model : Model) : Prop := ∀ key ∈ model.workspaces.keys, key ≤ model.lastKey

/-- A list of keys, in the order in which they come into use on the way from one model to another,
goes on from the last key. Workspaces stand under these keys and under those from before. -/
structure Gives (before : Model) (given : List Nat) (after : Model) : Prop where
  consecutive : given = List.range' (before.lastKey + 1) given.length
  lastKey : after.lastKey = before.lastKey + given.length
  mem_keys : ∀ key ∈ after.workspaces.keys, key ∈ before.workspaces.keys ∨ key ∈ given

theorem isCounted_empty : empty.IsCounted := fun _ member => absurd member List.not_mem_nil

namespace Gives

variable {before middle after : Model} {given later : List Nat}

theorem trans (first : before.Gives given middle) (second : middle.Gives later after) :
    before.Gives (given ++ later) after where
  consecutive := by
    rw [List.length_append, ← List.range'_append_1, ← first.consecutive,
      show before.lastKey + 1 + given.length = middle.lastKey + 1 by rw [first.lastKey]; omega,
      ← second.consecutive]
  lastKey := by rw [second.lastKey, first.lastKey, List.length_append, Nat.add_assoc]
  mem_keys key member := by
    rcases second.mem_keys key member with kept | new
    · exact (first.mem_keys key kept).imp_right (List.mem_append_left _)
    · exact Or.inr (List.mem_append_right _ new)

/-- A key that comes into use comes after the last key before and is counted from then on. -/
theorem bounds (gives : before.Gives given after) {key : Nat} (member : key ∈ given) :
    before.lastKey < key ∧ key ≤ after.lastKey := by
  have lastKey := gives.lastKey
  rw [gives.consecutive, List.mem_range'_1] at member
  omega

theorem lastKey_le (gives : before.Gives given after) : before.lastKey ≤ after.lastKey :=
  gives.lastKey ▸ Nat.le_add_right ..

theorem isCounted (gives : before.Gives given after) (counted : before.IsCounted) :
    after.IsCounted := by
  intro key member
  rcases gives.mem_keys key member with kept | new
  · exact (counted key kept).trans gives.lastKey_le
  · exact (gives.bounds new).2

end Gives

/-! ### Steps -/

/-- What can at most take workspaces away brings no key into use. -/
structure Loses (before after : Model) : Prop where
  lastKey : after.lastKey = before.lastKey
  old : ∀ key ∈ after.workspaces.keys, key ∈ before.workspaces.keys

/-- What a step does to keys: it brings none into use, or the next one. -/
inductive Adds (before after : Model) : Prop
  | none (loses : before.Loses after)
  | next (lastKey : after.lastKey = before.lastKey + 1)
      (used : before.lastKey + 1 ∈ after.workspaces.keys)
      (old : ∀ key ∈ after.workspaces.keys,
        key = before.lastKey + 1 ∨ key ∈ before.workspaces.keys)

section Relations

variable {before middle after : Model}

theorem loses_self (model : Model) : model.Loses model := ⟨rfl, fun _ member => member⟩

theorem Loses.trans (first : before.Loses middle) (second : middle.Loses after) :
    before.Loses after :=
  ⟨second.lastKey.trans first.lastKey, fun key member => first.old key (second.old key member)⟩

theorem keys_of_outline {first second : Model} (same : first.outline = second.outline) :
    first.workspaces.keys = second.workspaces.keys := by
  have outlined : ∀ model : Model, model.outline.workspaces.keys = model.workspaces.keys :=
    fun model => model.workspaces.keys_mapValues Workspace.outline
  rw [← outlined first, same, outlined]

/-- What does not show on the outline does to keys what the outline shows. -/
theorem Loses.of_outline (loses : before.Loses middle) (same : after.outline = middle.outline) :
    before.Loses after :=
  ⟨(lastKey_of_outline same).trans loses.lastKey, keys_of_outline same ▸ loses.old⟩

theorem Adds.of_outline (adds : before.Adds middle) (same : after.outline = middle.outline) :
    before.Adds after := by
  cases adds with
  | none loses => exact Adds.none (loses.of_outline same)
  | next lastKey used old =>
    have keys := keys_of_outline same
    exact Adds.next ((lastKey_of_outline same).trans lastKey) (keys ▸ used) (keys ▸ old)

theorem mem_arising_iff {key : Nat} :
    key ∈ before.arising after ↔
      key ∈ after.workspaces.keys ∧ key ∉ before.workspaces.keys := by
  rw [arising, List.mem_filter, Bool.not_eq_true', ← Bool.not_eq_true, SortedMap.contains_iff,
    ← SortedMap.mem_keys_iff]

theorem Loses.gives (loses : before.Loses after) : before.Gives [] after :=
  ⟨rfl, loses.lastKey, fun key member => Or.inl (loses.old key member)⟩

theorem Loses.arising_eq_nil (loses : before.Loses after) : before.arising after = [] := by
  refine List.eq_nil_iff_forall_not_mem.mpr fun key new => ?_
  obtain ⟨member, absent⟩ := mem_arising_iff.mp new
  exact absent (loses.old key member)

/-- The keys that come into use in a step go on from the last key. -/
theorem Adds.gives (adds : before.Adds after) (counted : before.IsCounted) :
    before.Gives (before.arising after) after := by
  cases adds with
  | none loses =>
    rw [loses.arising_eq_nil]
    exact loses.gives
  | next lastKey used old =>
    have fresh : before.lastKey + 1 ∉ before.workspaces.keys :=
      fun member => absurd (counted _ member) (Nat.not_succ_le_self _)
    have one : before.arising after = [before.lastKey + 1] := by
      have distinct : (before.arising after).Nodup := after.workspaces.keys_nodup.filter _
      refine List.perm_singleton.mp
        ((List.perm_ext_iff_of_nodup distinct (List.nodup_singleton _)).mpr fun key => ?_)
      rw [mem_arising_iff, List.mem_singleton]
      refine ⟨fun new => (old key new.1).resolve_right new.2, ?_⟩
      rintro rfl
      exact ⟨used, fresh⟩
    rw [one]
    exact ⟨rfl, lastKey, fun key member => (old key member).symm.imp_right List.mem_singleton.mpr⟩

/-- The keys that come into use in a loop go on from the last key if each of its steps brings at
most the next one into use. -/
theorem gives_foldl {Item : Type} {step : Model → Item → Model}
    (adds : ∀ (model : Model) (item : Item), model.Adds (step model item)) {model : Model}
    (counted : model.IsCounted)
    (items : List Item) : model.Gives (arisingIn step model items) (items.foldl step model) := by
  induction items generalizing model with
  | nil => exact model.loses_self.gives
  | cons item rest inductionHypothesis =>
    have head := (adds model item).gives counted
    exact head.trans (inductionHypothesis (head.isCounted counted))

end Relations

/-! ### Operations -/

theorem loses_update (key : Nat) (change : Workspace → Workspace) (model : Model) :
    model.Loses (model.update key change) := by
  refine ⟨rfl, fun other member => ?_⟩
  rw [update, SortedMap.keys, SortedMap.modify, List.map_map] at member
  exact member

theorem loses_erase (key : Nat) (model : Model) :
    model.Loses { model with workspaces := model.workspaces.erase key } := by
  refine ⟨rfl, fun other member => ?_⟩
  obtain ⟨kept, found⟩ := SortedMap.mem_keys_iff.mp member
  rw [SortedMap.get?_erase] at found
  split at found
  · cases found
  · exact SortedMap.mem_keys_iff.mpr ⟨kept, found⟩

theorem loses_remove (snapshot : Snapshot) (key : Nat) (model : Model) :
    model.Loses (model.remove snapshot key) := by
  cases present : model.workspaces.get? key with
  | none =>
    rw [remove_of_absent snapshot present]
    exact model.loses_self
  | some workspace =>
    have left := outline_remove snapshot present
    split at left
    · exact (model.loses_update key _).of_outline left
    · exact (model.loses_erase key).of_outline left

theorem loses_removeIfDestroyed (snapshot : Snapshot) (model : Model) (change : WorkspaceChange) :
    model.Loses (model.removeIfDestroyed snapshot change) := by
  cases change with
  | destroyed id raw =>
    rw [removeIfDestroyed]
    split
    · exact loses_remove ..
    · exact model.loses_self
  | _ => exact model.loses_self

theorem loses_rename (bar : Bar) (snapshot : Snapshot) (key : Nat) (raw : String) (model : Model) :
    model.Loses (model.rename bar snapshot key raw) := by
  rw [rename]
  split
  · exact model.loses_self
  · dsimp only
    split
    · exact (model.loses_update key _).of_outline (outline_claim ..)
    · exact (model.loses_update key _).trans (loses_remove ..)

theorem loses_relocate (bar : Bar) (snapshot : Snapshot) (key : Nat) (output : String)
    (model : Model) : model.Loses (model.relocate bar snapshot key output) := by
  rw [relocate]
  split
  · exact model.loses_self
  · dsimp only
    split
    · exact model.loses_update key _
    · exact (model.loses_update key _).trans (loses_remove ..)

/-- A workspace that is added stands under the next key. -/
theorem adds_insert (workspace : Workspace) (model : Model) :
    model.Adds
      { model with
        workspaces := model.workspaces.insert (model.lastKey + 1) workspace
        lastKey := model.lastKey + 1 } := by
  refine Adds.next rfl
    (SortedMap.mem_keys_iff.mpr ⟨workspace, SortedMap.get?_insert_self ..⟩) fun key member => ?_
  obtain ⟨present, found⟩ := SortedMap.mem_keys_iff.mp member
  rw [SortedMap.get?_insert] at found
  split at found
  · next same => exact Or.inl same
  · exact Or.inr (SortedMap.mem_keys_iff.mpr ⟨present, found⟩)

theorem adds_ensure (bar : Bar) (snapshot : Snapshot) (report : ReportedWorkspace)
    (model : Model) : model.Adds (model.ensure bar snapshot report) := by
  cases taken : bar.takesReport report with
  | false =>
    rw [ensure_of_refused taken]
    exact Adds.none model.loses_self
  | true =>
    cases found : model.forReport? report with
    | some workspace =>
      exact Adds.none ((model.loses_update workspace.key _).of_outline
        (outline_ensure_of_found taken snapshot found))
    | none =>
      exact (model.adds_insert _).of_outline (outline_ensure_of_missing taken snapshot found)

theorem adds_ensureNamed (bar : Bar) (snapshot : Snapshot) (raw : String) (model : Model) :
    model.Adds (model.ensureNamed bar snapshot raw) := by
  rw [ensureNamed]
  split
  · exact adds_ensure ..
  · exact Adds.none model.loses_self

theorem adds_addDeclared (bar : Bar) (model : Model) (raw : String) :
    model.Adds (model.addDeclared bar raw) := by
  rw [addDeclared]
  dsimp only
  split
  · exact model.adds_insert _
  · exact Adds.none model.loses_self

theorem adds_applyChange (bar : Bar) (snapshot : Snapshot) (model : Model)
    (change : WorkspaceChange) : model.Adds (model.applyChange bar snapshot change) := by
  cases change with
  | destroyed id raw => exact Adds.none model.loses_self
  | created id raw =>
    rw [applyChange.eq_def]
    dsimp only
    split
    · exact adds_ensure ..
    · exact Adds.none model.loses_self
  | renamed id raw =>
    rw [applyChange]
    split
    · exact Adds.none (loses_rename ..)
    · exact Adds.none model.loses_self
  | moved raw monitor =>
    rw [applyChange]
    split
    · exact Adds.none (loses_relocate ..)
    · exact adds_ensureNamed ..
  | activated raw =>
    rw [applyChange]
    split
    · exact Adds.none model.loses_self
    · exact adds_ensureNamed ..

theorem loses_observe (bar : Bar) (snapshot : Snapshot) (model : Model) :
    model.Loses (model.observe bar snapshot) := by
  have mapped : model.Loses
      { model with
        workspaces := model.workspaces.mapValues (Workspace.observe bar snapshot) } :=
    ⟨rfl, fun key member => SortedMap.keys_mapValues model.workspaces _ ▸ member⟩
  exact mapped.of_outline (outline_observe bar snapshot model)

/-! ### Work on workspaces -/

section Work

variable {model : Model}

theorem gives_agreement (counted : model.IsCounted) (bar : Bar) (snapshot : Snapshot)
    (excluded : List String) :
    model.Gives (model.arisingInAgreement bar snapshot excluded)
      ((model.align bar snapshot excluded).addAllDeclared bar) := by
  have removed : model.Gives _ (model.removeStale bar snapshot) :=
    gives_foldl (fun next key => Adds.none (next.loses_remove snapshot key)) counted _
  have ensured : (model.removeStale bar snapshot).Gives _ (model.align bar snapshot excluded) :=
    gives_foldl (fun next report => next.adds_ensure bar snapshot report)
      (removed.isCounted counted) _
  have aligned := removed.trans ensured
  exact aligned.trans (gives_foldl (adds_addDeclared bar) (aligned.isCounted counted) _)

theorem gives_work (counted : model.IsCounted) (bar : Bar) (snapshot : Snapshot)
    (changes : List WorkspaceChange) :
    model.Gives (model.arisingInWork bar snapshot changes)
      ((((model.removeDestroyed snapshot changes).applyChanges bar snapshot changes).align bar
        snapshot (changes.filterMap destroyedName?)).addAllDeclared bar) := by
  have removed : model.Gives _ (model.removeDestroyed snapshot changes) :=
    gives_foldl (fun next change => Adds.none (next.loses_removeIfDestroyed snapshot change))
      counted changes
  have applied : (model.removeDestroyed snapshot changes).Gives _
      ((model.removeDestroyed snapshot changes).applyChanges bar snapshot changes) :=
    gives_foldl (adds_applyChange bar snapshot) (removed.isCounted counted) changes
  have announced := removed.trans applied
  exact announced.trans (gives_agreement (announced.isCounted counted) bar snapshot _)

theorem isCounted_cleared (model : Model) : model.cleared.IsCounted :=
  fun _ member => absurd member List.not_mem_nil

theorem loses_cleared (model : Model) : model.Loses model.cleared :=
  ⟨rfl, fun _ member => absurd member List.not_mem_nil⟩

end Work

end Model

namespace Tracker

/-! ### Ticks and runs -/

/-- What the bar knows in a tick when its workspaces agree with the reports, and the changes of
windows are still to come. -/
def agreed (snapshot : Snapshot) (tracker : Tracker) : Model :=
  let bar := tracker.bar
  let changes := tracker.backlog.workspaces
  if tracker.loaded && !tracker.backlog.configChanged then
    (((tracker.model.removeDestroyed snapshot changes).applyChanges bar snapshot changes).align bar
      snapshot (changes.filterMap Model.destroyedName?)).addAllDeclared bar
  else tracker.model.startOver bar snapshot

/-- The keys that come into use in a tick. -/
def arisingInTick (snapshot : Snapshot) (tracker : Tracker) : List Nat :=
  let bar := tracker.bar
  let arising :=
    if tracker.loaded && !tracker.backlog.configChanged then
      tracker.model.arisingInWork bar snapshot tracker.backlog.workspaces
    else tracker.model.cleared.arisingInAgreement bar snapshot []
  arising ++ (tracker.agreed snapshot).arising (tracker.nextModel snapshot)

/-- The keys that come into use when an input comes in. -/
def arisingWith (tracker : Tracker) : Input → List Nat
  | .event event => tracker.model.arising (tracker.push event).model
  | .snapshot snapshot => tracker.arisingInTick snapshot

/-- The keys that have been given out in a run, in the order in which they came into use. -/
def keysGiven [Pattern.Engine] (config : BarConfig) (inputs : List Input) : List Nat :=
  noted accept arisingWith (ofConfig config) inputs

theorem keysGiven_append [Pattern.Engine] (config : BarConfig) (inputs later : List Input) :
    keysGiven config (inputs ++ later) =
      keysGiven config inputs ++ noted accept arisingWith (run config inputs) later := noted_append

/-- What a tick does with windows and flags brings no key into use. -/
theorem loses_agreed (tracker : Tracker) (snapshot : Snapshot) :
    (tracker.agreed snapshot).Loses (tracker.nextModel snapshot) := by
  rw [agreed, nextModel]
  split
  · exact ((Model.loses_self _).of_outline (Model.outline_catchUp ..)).trans
      (Model.loses_observe ..)
  · exact Model.loses_observe ..

/-- The keys that come into use in a tick go on from the last key. -/
theorem gives_tick {tracker : Tracker} (counted : tracker.model.IsCounted) (snapshot : Snapshot) :
    tracker.model.Gives (tracker.arisingInTick snapshot) (tracker.nextModel snapshot) := by
  have agreed : tracker.model.Gives
      (if tracker.loaded && !tracker.backlog.configChanged then
        tracker.model.arisingInWork tracker.bar snapshot tracker.backlog.workspaces
      else tracker.model.cleared.arisingInAgreement tracker.bar snapshot [])
      (tracker.agreed snapshot) := by
    rw [Tracker.agreed]
    split
    · exact Model.gives_work counted tracker.bar snapshot tracker.backlog.workspaces
    · exact tracker.model.loses_cleared.gives.trans
        (Model.gives_agreement tracker.model.isCounted_cleared tracker.bar snapshot [])
  exact agreed.trans ((Model.Adds.none (tracker.loses_agreed snapshot)).gives
    (agreed.isCounted counted))

/-- When the bar starts over after the configuration was read again, all workspaces stand under keys
that come into use in this tick. -/
theorem mem_arisingInTick_of_configChanged {tracker : Tracker}
    (changed : tracker.backlog.configChanged = true) {snapshot : Snapshot} {key : Nat}
    (used : key ∈ (tracker.nextModel snapshot).workspaces.keys) :
    key ∈ tracker.arisingInTick snapshot := by
  have fresh : ¬(tracker.loaded && !tracker.backlog.configChanged) = true := by
    rw [changed, Bool.not_true, Bool.and_false]
    exact Bool.false_ne_true
  have agreed := (tracker.loses_agreed snapshot).old key used
  rw [Tracker.agreed, if_neg fresh] at agreed
  have started : key ∈ tracker.model.cleared.arisingInAgreement tracker.bar snapshot [] :=
    ((Model.gives_agreement tracker.model.isCounted_cleared tracker.bar snapshot []).mem_keys key
      agreed).resolve_left List.not_mem_nil
  rw [arisingInTick, if_neg fresh]
  exact List.mem_append_left _ started

theorem gives_accept {tracker : Tracker} (counted : tracker.model.IsCounted) (input : Input) :
    tracker.model.Gives (tracker.arisingWith input) (tracker.accept input).model := by
  cases input with
  | event event => exact (Model.Adds.none tracker.model.loses_self).gives counted
  | snapshot snapshot => exact gives_tick counted snapshot

/-- The keys that come into use with the inputs of a run go on from the last key. -/
theorem gives_foldl_accept (inputs : List Input) {tracker : Tracker}
    (counted : tracker.model.IsCounted) :
    tracker.model.Gives (noted accept arisingWith tracker inputs)
      (inputs.foldl accept tracker).model := by
  induction inputs generalizing tracker with
  | nil => exact tracker.model.loses_self.gives
  | cons input rest inductionHypothesis =>
    have head := gives_accept counted input
    exact head.trans (inductionHypothesis (head.isCounted counted))

theorem gives_run [Pattern.Engine] (config : BarConfig) (inputs : List Input) :
    Model.empty.Gives (keysGiven config inputs) (run config inputs).model := by
  have counted : (ofConfig config).model.IsCounted := Model.isCounted_empty
  exact gives_foldl_accept inputs counted

theorem gives_later [Pattern.Engine] (config : BarConfig) (inputs later : List Input) :
    (run config inputs).model.Gives (noted accept arisingWith (run config inputs) later)
      (run config (inputs ++ later)).model := by
  rw [run_resume]
  exact gives_foldl_accept later ((gives_run config inputs).isCounted Model.isCounted_empty)

end Tracker

end Deskbar
