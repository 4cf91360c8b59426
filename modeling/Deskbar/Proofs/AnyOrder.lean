/-
This file shows that it does not matter in which order windows that wait are visited. Three loops of
a tick go over them: a workspace claims those that wait for it, everyone is told which window has
the focus, and those that have waited for the whole tick grow older. A tracker that goes over them
in whatever order it likes, every time anew, is described here as one with many outcomes, and it
turns out to have a single one: the outcome of the tracker that goes over them in the order of their
addresses.

Two visits may change places when they are visits of different windows. That is plain for ages and
for the focus. A claim takes a window from those that wait under the address at which it is visited,
and enters it under the address that it has, so nothing could be said if these were not the same.
They are the same in every run, whatever addresses come in.
-/

import Mathlib.Data.Set.Functor
import Deskbar.Proofs.Appearance

namespace Deskbar

/-! ### Work in any order -/

/-- Does work on addresses in whatever order they come. -/
def inAnyOrder {Result : Type} (addresses : List String) (work : List String → Result) :
    SetM Result :=
  ({result | ∃ order, order.Perm addresses ∧ work order = result} : Set Result)

/-- Work has a single outcome when the order makes no difference to it. -/
theorem inAnyOrder_eq_pure {Result : Type} {addresses : List String}
    {work : List String → Result}
    (same : ∀ order : List String, order.Perm addresses → work order = work addresses) :
    inAnyOrder addresses work = pure (work addresses) := by
  refine Set.ext fun result => ⟨?_, ?_⟩
  · rintro ⟨order, shuffled, rfl⟩
    exact same order shuffled
  · rintro rfl
    exact ⟨addresses, List.Perm.refl addresses, rfl⟩

section Loops

variable {State Item : Type} (invariant : State → Prop) {step : State → Item → State}
  {items : List Item} {state : State}

/-- A loop has a single outcome when each of its steps has, as long as an invariant holds that the
steps keep. -/
theorem foldlM_eq_pure {Many : Type → Type} [Monad Many] [LawfulMonad Many]
    {step' : State → Item → Many State}
    (single : ∀ state, invariant state → ∀ item ∈ items, step' state item = pure (step state item))
    (kept : ∀ state, invariant state → ∀ item ∈ items, invariant (step state item))
    (start : invariant state) : items.foldlM step' state = pure (items.foldl step state) := by
  induction items generalizing state with
  | nil => rfl
  | cons first rest inductionHypothesis =>
    rw [List.foldlM_cons, single state start first List.mem_cons_self, pure_bind, List.foldl_cons]
    exact inductionHypothesis
      (fun state holds item member => single state holds item (List.mem_cons_of_mem _ member))
      (fun state holds item member => kept state holds item (List.mem_cons_of_mem _ member))
      (kept state start first List.mem_cons_self)

/-- A loop does the same in every order when steps for different items may change places, as long
as an invariant holds that the steps keep. -/
theorem foldl_eq_of_perm {order : List Item} (shuffled : order.Perm items)
    (kept : ∀ state item, invariant state → invariant (step state item))
    (swapped : ∀ state first second, invariant state → first ≠ second →
      step (step state first) second = step (step state second) first)
    (start : invariant state) : order.foldl step state = items.foldl step state := by
  induction shuffled generalizing state with
  | nil => rfl
  | cons first _ inductionHypothesis => exact inductionHypothesis (kept state first start)
  | swap first second rest =>
    simp only [List.foldl_cons]
    by_cases same : second = first
    · rw [same]
    · rw [swapped state second first start same]
  | trans _ _ earlier later => exact (earlier start).trans (later start)

end Loops

/-! ### Visits of two windows -/

namespace SortedMap

variable {Key Value : Type} [Ord Key] [Std.TransOrd Key] [Std.LawfulEqOrd Key] [DecidableEq Key]
  (map : SortedMap Key Value) {first second : Key}

theorem insert_comm (different : first ≠ second) (one other : Value) :
    (map.insert first one).insert second other = (map.insert second other).insert first one := by
  refine eq_of_get? fun key => ?_
  simp only [get?_insert]
  by_cases isFirst : key = first
  · rw [if_neg (isFirst ▸ different), if_pos isFirst, if_pos isFirst]
  · rw [if_neg isFirst, if_neg isFirst]

theorem modify_const_modify_const (one other : Value) :
    (map.modify first fun _ => one).modify first (fun _ => other) =
      map.modify first fun _ => other := by
  refine eq_of_get? fun key => ?_
  simp only [get?_modify]
  split
  · rw [Option.map_map]
    rfl
  · rfl

theorem erase_comm : (map.erase first).erase second = (map.erase second).erase first := by
  refine eq_of_get? fun key => ?_
  simp only [get?_erase]
  split <;> split <;> rfl

theorem modify_comm (different : first ≠ second) (one other : Value → Value) :
    (map.modify first one).modify second other = (map.modify second other).modify first one := by
  refine eq_of_get? fun key => ?_
  simp only [get?_modify]
  by_cases isFirst : key = first
  · rw [if_neg (isFirst ▸ different), if_pos isFirst, if_pos isFirst, if_neg (isFirst ▸ different)]
  · rw [if_neg isFirst, if_neg isFirst]

end SortedMap

/-- A workspace may take in two windows in either order when no more than one of them has the
focus. -/
theorem Workspace.takeIn_comm (rewriter : Rewriter) (workspace : Workspace) (first second : Window)
    (different : first.address ≠ second.address)
    (single : first.active = true → second.active = false) :
    (workspace.takeIn rewriter first).takeIn rewriter second =
      (workspace.takeIn rewriter second).takeIn rewriter first := by
  cases firstOut : first.isLeftOut rewriter with
  | true => rw [Model.takeIn_of_leftOut first firstOut, Model.takeIn_of_leftOut first firstOut]
  | false =>
    cases secondOut : second.isLeftOut rewriter with
    | true =>
      rw [Model.takeIn_of_leftOut second secondOut, Model.takeIn_of_leftOut second secondOut]
    | false =>
      rw [Window.isLeftOut] at firstOut secondOut
      simp only [takeIn, firstOut, secondOut, Bool.false_eq_true, if_false, Workspace.mk.injEq,
        true_and]
      refine ⟨SortedMap.insert_comm _ different _ _, ?_⟩
      cases active : first.active with
      | true => rw [single active]; rfl
      | false => rfl

namespace Model

/-- The index after a window was given to a workspace, which has taken it in or not. -/
def indexedOn (key : Nat) (address : String) (held : Bool) (owners : SortedMap String Owner) :
    SortedMap String Owner :=
  if held then (owners.erase address).insert address (.workspace key) else owners.erase address

theorem get?_indexedOn (key : Nat) (address : String) (held : Bool)
    (owners : SortedMap String Owner) (other : String) :
    (indexedOn key address held owners).get? other =
      if other = address then if held then some (.workspace key) else none
      else owners.get? other := by
  rw [indexedOn]
  split
  · rw [SortedMap.get?_insert, SortedMap.get?_erase]
    split <;> rfl
  · exact SortedMap.get?_erase owners address other

theorem indexedOn_comm (key : Nat) {first second : String} (different : first ≠ second)
    (one other : Bool) (owners : SortedMap String Owner) :
    indexedOn key second other (indexedOn key first one owners) =
      indexedOn key first one (indexedOn key second other owners) := by
  refine SortedMap.eq_of_get? fun address => ?_
  simp only [get?_indexedOn]
  by_cases isFirst : address = first
  · rw [if_neg (isFirst ▸ different), if_pos isFirst, if_pos isFirst]
  · rw [if_neg isFirst, if_neg isFirst]

/-- Nothing is said of what windows look like, only that they wait under their own addresses. -/
def Whatever (_ : String) (_ : Window.Appearance) : Prop := True

theorem respects_whatever (rewriter : Rewriter) : rewriter.Respects Whatever where
  plain _ := trivial
  resolved _ _ := trivial

theorem allowed_whatever (snapshot : Snapshot) : snapshot.Allowed Whatever := fun _ _ => trivial

theorem brings_whatever (rewriter : Rewriter) (snapshot : Snapshot) (model : Model)
    (change : WindowChange) : model.Brings Whatever rewriter snapshot change := by
  cases change with
  | retitled address title => exact ⟨fun _ _ _ _ => trivial, fun _ _ _ _ _ => trivial⟩
  | _ => trivial

section Visits

variable {model : Model} (bar : Bar) {key : Nat} {workspace : Workspace}

/-- A window that waits under its own address is claimed: it waits no longer, its workspace takes it
in, and the index names the workspace if the window is there then. -/
theorem claimOne_eq (looks : model.Looks Whatever)
    (present : model.workspaces.get? key = some workspace) {address : String} {window : Window}
    (waits : model.orphans.get? address = some window) :
    let taken := workspace.takeIn bar.rewriter (window.withFocus (model.hasFocusOn address))
    model.claimOne bar key address =
      { model with
        workspaces := model.workspaces.modify key fun _ => taken
        owners := indexedOn key address (taken.holds address) model.owners
        orphans := model.orphans.erase address } := by
  intro taken
  obtain ⟨rfl, -⟩ := looks.waiting waits
  have unowned : (model.owners.erase window.address).get? window.address = none :=
    SortedMap.get?_erase_self ..
  simp only [claimOne, waits, place, withdraw, unowned, present, indexedOn]
  show (if taken.holds window.address = true then _ else _ : Model) = _
  split <;> rfl

/-- A workspace takes in two windows that it claims, one after the other. -/
theorem claimOne_claimOne_eq (looks : model.Looks Whatever)
    (present : model.workspaces.get? key = some workspace) {first second : String}
    (different : second ≠ first) {one other : Window}
    (firstWaits : model.orphans.get? first = some one)
    (secondWaits : model.orphans.get? second = some other) :
    let firstIn := workspace.takeIn bar.rewriter (one.withFocus (model.hasFocusOn first))
    let bothIn := firstIn.takeIn bar.rewriter (other.withFocus (model.hasFocusOn second))
    (model.claimOne bar key first).claimOne bar key second =
      { model with
        workspaces := model.workspaces.modify key fun _ => bothIn
        owners := indexedOn key second (bothIn.holds second)
          (indexedOn key first (firstIn.holds first) model.owners)
        orphans := (model.orphans.erase first).erase second } := by
  intro firstIn bothIn
  have taken := claimOne_eq bar looks present firstWaits
  have looksAfter := looks.claimOne (respects_whatever bar.rewriter) key first
  rw [taken] at looksAfter ⊢
  have presentAfter : (model.workspaces.modify key fun _ => firstIn).get? key = some firstIn := by
    rw [SortedMap.get?_modify_self, present, Option.map_some]
  have waitsAfter : (model.orphans.erase first).get? second = some other :=
    (SortedMap.get?_erase_of_ne _ different).trans secondWaits
  rw [claimOne_eq bar looksAfter presentAfter waitsAfter]
  simp only [SortedMap.modify_const_modify_const]
  rfl

/-- Windows that wait may be claimed in either order. -/
theorem claimOne_comm (looks : model.Looks Whatever)
    (present : model.workspaces.get? key = some workspace) {first second : String}
    (different : first ≠ second) :
    (model.claimOne bar key first).claimOne bar key second =
      (model.claimOne bar key second).claimOne bar key first := by
  cases firstWaits : model.orphans.get? first with
  | none =>
    have missing := (Sheds.claimOne bar key model second).dwindles.get?_eq_none firstWaits
    rw [claimOne_of_not_waiting firstWaits, claimOne_of_not_waiting missing]
  | some one =>
    cases secondWaits : model.orphans.get? second with
    | none =>
      have missing := (Sheds.claimOne bar key model first).dwindles.get?_eq_none secondWaits
      rw [claimOne_of_not_waiting secondWaits, claimOne_of_not_waiting missing]
    | some other =>
      rw [claimOne_claimOne_eq bar looks present different.symm firstWaits secondWaits,
        claimOne_claimOne_eq bar looks present different secondWaits firstWaits]
      obtain ⟨rfl, -⟩ := looks.waiting firstWaits
      obtain ⟨rfl, -⟩ := looks.waiting secondWaits
      have single : model.hasFocusOn one.address = true →
          model.hasFocusOn other.address = false := fun focused =>
        decide_eq_false fun focusedToo =>
          different (Option.some.inj ((of_decide_eq_true focused).symm.trans focusedToo))
      have swapped := Workspace.takeIn_comm bar.rewriter workspace
        (one.withFocus (model.hasFocusOn one.address))
        (other.withFocus (model.hasFocusOn other.address)) different single
      -- What the workspace holds of one window does not hang on the other one.
      have oneHeld := Workspace.holds_takeIn_of_ne bar.rewriter
        (other.withFocus (model.hasFocusOn other.address))
        (workspace.takeIn bar.rewriter (one.withFocus (model.hasFocusOn one.address))) different
      have otherHeld := Workspace.holds_takeIn_of_ne bar.rewriter
        (one.withFocus (model.hasFocusOn one.address))
        (workspace.takeIn bar.rewriter (other.withFocus (model.hasFocusOn other.address)))
        different.symm
      rw [← oneHeld, ← otherHeld, swapped, indexedOn_comm key different, SortedMap.erase_comm]

/-- A workspace claims windows in every order alike. -/
theorem claimEach_eq_of_perm (looks : model.Looks Whatever)
    (present : model.workspaces.get? key = some workspace) {order addresses : List String}
    (shuffled : order.Perm addresses) :
    model.claimEach bar key order = model.claimEach bar key addresses := by
  refine foldl_eq_of_perm
    (fun next => next.Looks Whatever ∧ ∃ workspace, next.workspaces.get? key = some workspace)
    shuffled
    (fun next address ⟨kept, here⟩ => ⟨kept.claimOne (respects_whatever _) key address, ?_⟩)
    (fun next _ _ ⟨kept, _, here⟩ different => claimOne_comm bar kept here different)
    ⟨looks, workspace, present⟩
  obtain ⟨origin, found⟩ := here
  obtain ⟨taken, takenFound, -⟩ := get?_of_outline (outline_claimOne ..).symm found
  exact ⟨taken, takenFound⟩

theorem growOrphans_eq_of_perm (model : Model) {order addresses : List String}
    (distinct : addresses.Nodup) (shuffled : order.Perm addresses) :
    model.growOrphans bar order = model.growOrphans bar addresses := by
  have orderDistinct : order.Nodup := shuffled.nodup_iff.mpr distinct
  rw [growOrphans_eq, growOrphans_eq bar addresses]
  congr 1
  · refine SortedMap.eq_of_get? fun address => ?_
    simp only [get?_owners_growOrphans bar orderDistinct, get?_owners_growOrphans bar distinct,
      shuffled.mem_iff]
  · refine SortedMap.eq_of_get? fun address => ?_
    simp only [get?_orphans_growOrphans bar orderDistinct, get?_orphans_growOrphans bar distinct,
      shuffled.mem_iff]

theorem focusOrphans_eq_of_perm (model : Model) {order addresses : List String}
    (shuffled : order.Perm addresses) :
    focusOrphans order model = focusOrphans addresses model := by
  refine foldl_eq_of_perm (fun _ => True) shuffled (fun _ _ _ => trivial)
    (fun model first second _ different => ?_) trivial
  have swapped := SortedMap.modify_comm model.orphans different
    (fun window => window.withFocus (model.hasFocusOn first))
    (fun window => window.withFocus (model.hasFocusOn second))
  exact congrArg (fun orphans => { model with orphans := orphans }) swapped

end Visits

/-! ### Models -/

namespace AnyOrder

variable (bar : Bar) (snapshot : Snapshot)

/-- Gives a workspace every window that waits for it, in any order. -/
def claim (key : Nat) (model : Model) : SetM Model :=
  match model.workspaces.get? key with
  | none => pure model
  | some workspace =>
    inAnyOrder (model.waitingFor workspace.reference) fun order => model.claimEach bar key order

/-- Brings the workspace of a report onto the bar, where it claims windows in any order. -/
def ensure (report : ReportedWorkspace) (model : Model) : SetM Model :=
  let name := WorkspaceName.parse report.name
  if bar.takes name.shown report.monitor name.special then
    match model.forReport? report with
    | some workspace =>
      let model := model.update workspace.key fun workspace => workspace.adopt report
      if workspace.id.isSome then claim bar workspace.key model
      else claim bar workspace.key (model.gather bar snapshot workspace.key report.id)
    | none =>
      let model := model.create bar report
      claim bar model.lastKey (model.gather bar snapshot model.lastKey report.id)
  else pure model

/-- Brings a workspace onto the bar by its name, where it claims windows in any order. -/
def ensureNamed (raw : String) (model : Model) : SetM Model :=
  let byReference :=
    snapshot.workspaces.find? fun report =>
      workspaceReference report.name = workspaceReference raw
  match (snapshot.byRawName? raw).or byReference with
  | some report => ensure bar snapshot report model
  | none => pure model

/-- Gives a workspace another raw name, under which it claims windows in any order. -/
def rename (key : Nat) (raw : String) (model : Model) : SetM Model :=
  match model.workspaces.get? key with
  | none => pure model
  | some workspace =>
    let renamed := workspace.rename raw
    let renamed :=
      { renamed with
        flags := { renamed.flags with persistentConfig := bar.declares renamed.name } }
    let model := model.update key fun _ => renamed
    if keeps bar renamed then claim bar key model else pure (model.remove snapshot key)

/-- Carries out a change of a workspace, with claims in any order. -/
def applyChange (model : Model) : WorkspaceChange → SetM Model
  | .destroyed _ _ => pure model
  | .created id raw =>
    match (match id with | some id => snapshot.byId? id | none => snapshot.byRawName? raw) with
    | some report => ensure bar snapshot report model
    | none => pure model
  | .renamed id raw =>
    match model.withId? id with
    | some workspace => rename bar snapshot workspace.key raw model
    | none => pure model
  | .moved raw monitor =>
    match model.named? raw with
    | some workspace => pure (model.relocate bar snapshot workspace.key monitor)
    | none => ensureNamed bar snapshot raw model
  | .activated raw =>
    match model.named? raw with
    | some _ => pure model
    | none => ensureNamed bar snapshot raw model

/-- Carries out changes of workspaces, with claims in any order. -/
def applyChanges (changes : List WorkspaceChange) (model : Model) : SetM Model :=
  changes.foldlM (applyChange bar snapshot) model

/-- Makes the workspaces agree with the reports, with claims in any order. -/
def align (excluded : List String) (model : Model) : SetM Model :=
  ((sortBy (compareOn ReportedWorkspace.id) snapshot.workspaces).filter fun report =>
      !excluded.contains (shownName report.name)).foldlM
    (fun model report => ensure bar snapshot report model) (model.removeStale bar snapshot)

/-- Starts over from the reports, with claims in any order. -/
def startOver (model : Model) : SetM Model := do
  let model ← align bar snapshot []
    { model with
      workspaces := SortedMap.empty
      owners := SortedMap.empty
      orphans := SortedMap.empty }
  return model.addAllDeclared bar

/-- Says to everyone which window has the focus, to those that wait in any order. -/
def shareFocus (model : Model) : SetM Model :=
  inAnyOrder model.orphans.keys fun order => focusOrphans order model.focusWorkspaces

/-- Carries out a change of a window. Those that wait are told of the focus in any order. -/
def applyWindowChange (model : Model) : WindowChange → SetM Model
  | .focused address => shareFocus { model with focused := address.map plainAddress }
  | change => pure (model.applyWindowChange bar snapshot change)

/-- Carries out changes of windows. Those that wait are told of the focus in any order. -/
def applyWindowChanges (changes : List WindowChange) (model : Model) : SetM Model :=
  changes.foldlM (applyWindowChange bar snapshot) model

/-- Makes out what is true of every workspace. Those that wait are told of the focus in any
order. -/
def observe (model : Model) : SetM Model :=
  shareFocus
    { model with
      focused := snapshot.focusedAddress?.or model.focused
      workspaces := model.workspaces.mapValues fun workspace => workspace.observe bar snapshot }

variable {bar snapshot} {model : Model}

theorem claim_eq_pure (looks : model.Looks Whatever) (key : Nat) :
    claim bar key model = pure (model.claim bar key) := by
  rw [claim, Model.claim]
  cases present : model.workspaces.get? key with
  | none => rfl
  | some workspace =>
    exact inAnyOrder_eq_pure fun _ shuffled => claimEach_eq_of_perm bar looks present shuffled

theorem ensure_eq_pure (looks : model.Looks Whatever) (report : ReportedWorkspace) :
    ensure bar snapshot report model = pure (model.ensure bar snapshot report) := by
  have respects := respects_whatever bar.rewriter
  have reported := allowed_whatever snapshot
  rw [ensure, Model.ensure]
  split
  · cases model.forReport? report with
    | some workspace =>
      have adopted : (model.update workspace.key fun workspace =>
          workspace.adopt report).Looks Whatever := looks.update fun _ => rfl
      dsimp only
      split
      · exact claim_eq_pure adopted workspace.key
      · exact claim_eq_pure (adopted.gather respects reported _ _) workspace.key
    | none =>
      have created : (model.create bar report).Looks Whatever := looks.insert rfl _ _
      exact claim_eq_pure (created.gather respects reported _ _) _
  · rfl

theorem ensureNamed_eq_pure (looks : model.Looks Whatever) (raw : String) :
    ensureNamed bar snapshot raw model = pure (model.ensureNamed bar snapshot raw) := by
  rw [ensureNamed, Model.ensureNamed]
  generalize (snapshot.byRawName? raw).or _ = found
  cases found with
  | some report => exact ensure_eq_pure looks report
  | none => rfl

theorem rename_eq_pure (looks : model.Looks Whatever) (key : Nat) (raw : String) :
    rename bar snapshot key raw model = pure (model.rename bar snapshot key raw) := by
  rw [rename, Model.rename]
  cases present : model.workspaces.get? key with
  | none => rfl
  | some workspace =>
    dsimp only
    split
    · refine claim_eq_pure ?_ key
      exact (Looks.stepwise (respects_whatever bar.rewriter)
        (allowed_whatever snapshot)).replace present rfl rfl rfl rfl looks
    · rfl

theorem applyChange_eq_pure (looks : model.Looks Whatever) (change : WorkspaceChange) :
    applyChange bar snapshot model change = pure (model.applyChange bar snapshot change) := by
  cases change with
  | destroyed id raw => rfl
  | created id raw =>
    rw [applyChange.eq_def, Model.applyChange.eq_def]
    cases id with
    | some id =>
      dsimp only
      cases snapshot.byId? id with
      | some report => exact ensure_eq_pure looks report
      | none => rfl
    | none =>
      dsimp only
      cases snapshot.byRawName? raw with
      | some report => exact ensure_eq_pure looks report
      | none => rfl
  | renamed id raw =>
    rw [applyChange, Model.applyChange]
    cases model.withId? id with
    | some workspace => exact rename_eq_pure looks workspace.key raw
    | none => rfl
  | moved raw monitor =>
    rw [applyChange, Model.applyChange]
    cases model.named? raw with
    | some workspace => rfl
    | none => exact ensureNamed_eq_pure looks raw
  | activated raw =>
    rw [applyChange, Model.applyChange]
    cases model.named? raw with
    | some workspace => rfl
    | none => exact ensureNamed_eq_pure looks raw

theorem applyChanges_eq_pure (looks : model.Looks Whatever) (changes : List WorkspaceChange) :
    applyChanges bar snapshot changes model = pure (model.applyChanges bar snapshot changes) :=
  foldlM_eq_pure (fun next => next.Looks Whatever)
    (fun _ kept change _ => applyChange_eq_pure kept change)
    (fun next kept change _ => (Looks.stepwise (respects_whatever bar.rewriter)
      (allowed_whatever snapshot)).applyChange next change kept) looks

theorem align_eq_pure (looks : model.Looks Whatever) (excluded : List String) :
    align bar snapshot excluded model = pure (model.align bar snapshot excluded) := by
  have stepwise := Looks.stepwise (respects_whatever bar.rewriter) (allowed_whatever snapshot)
  refine foldlM_eq_pure (fun next => next.Looks Whatever)
    (fun next kept report _ => ensure_eq_pure kept report)
    (fun next kept report _ => stepwise.ensure next report kept) ?_
  exact stepwise.foldl stepwise.remove _ model looks

theorem startOver_eq_pure (model : Model) :
    startOver bar snapshot model = pure (model.startOver bar snapshot) := by
  rw [startOver, align_eq_pure (Looks.cleared model), pure_bind]
  rfl

theorem shareFocus_eq_pure (model : Model) : shareFocus model = pure model.shareFocus :=
  inAnyOrder_eq_pure fun _ shuffled => focusOrphans_eq_of_perm model.focusWorkspaces shuffled

theorem applyWindowChange_eq_pure (model : Model) (change : WindowChange) :
    applyWindowChange bar snapshot model change =
      pure (model.applyWindowChange bar snapshot change) := by
  cases change with
  | focused address => exact shareFocus_eq_pure _
  | _ => rfl

theorem applyWindowChanges_eq_pure (changes : List WindowChange) (model : Model) :
    applyWindowChanges bar snapshot changes model =
      pure (model.applyWindowChanges bar snapshot changes) :=
  foldlM_eq_pure (fun _ => True) (fun next _ change _ => applyWindowChange_eq_pure next change)
    (fun _ _ _ _ => trivial) trivial

theorem observe_eq_pure (model : Model) :
    observe bar snapshot model = pure (model.observe bar snapshot) := shareFocus_eq_pure _

end AnyOrder

end Model

/-! ### Ticks and runs -/

namespace Tracker

namespace AnyOrder

open Model.AnyOrder

/-- Does the work that waits, with visits of windows in any order. -/
def catchUp (bar : Bar) (snapshot : Snapshot) (backlog : Backlog) (model : Model) :
    SetM Model := do
  let aging := model.orphans.keys
  let model := model.removeDestroyed snapshot backlog.workspaces
  let model ← applyChanges bar snapshot backlog.workspaces model
  let model ← align bar snapshot (backlog.workspaces.filterMap Model.destroyedName?) model
  let model := model.addAllDeclared bar
  let model ← applyWindowChanges bar snapshot backlog.windows model
  inAnyOrder aging fun order => model.growOrphans bar order

/-- What the bar may know after a tick. -/
def nextModel (snapshot : Snapshot) (tracker : Tracker) : SetM Model := do
  let bar := tracker.bar
  let model ←
    if tracker.loaded && !tracker.backlog.configChanged then
      catchUp bar snapshot tracker.backlog tracker.model
    else startOver bar snapshot tracker.model
  observe bar snapshot model

/-- Brings the bar in step with a snapshot, with visits of windows in any order. -/
def tick (snapshot : Snapshot) (tracker : Tracker) : SetM Tracker := do
  let model ← nextModel snapshot tracker
  let sorted :=
    tracker.bar.config.arrangement.sort snapshot.monitors model.workspaces.values
  return { tracker with
    model := model
    display := sorted.map Workspace.key
    backlog := {}
    loaded := true }

/-- Takes in an event, or comes in step with a snapshot in any order. -/
def accept (tracker : Tracker) : Input → SetM Tracker
  | .event event => pure (tracker.push event)
  | .snapshot snapshot => tick snapshot tracker

/-- The trackers that may be there at the end of a run, when every tick visits windows in an order
of its own. -/
def run [Pattern.Engine] (config : BarConfig) (inputs : List Input) : SetM Tracker :=
  inputs.foldlM accept (ofConfig config)

variable {tracker : Tracker}

theorem catchUp_eq_pure {model : Model} (looks : model.Looks Model.Whatever) (bar : Bar)
    (snapshot : Snapshot) (backlog : Backlog) :
    catchUp bar snapshot backlog model = pure (Tracker.catchUp bar snapshot backlog model) := by
  have stepwise := Model.Looks.stepwise (Model.respects_whatever bar.rewriter)
    (Model.allowed_whatever snapshot)
  have removed : (model.removeDestroyed snapshot backlog.workspaces).Looks Model.Whatever :=
    stepwise.foldl stepwise.removeIfDestroyed backlog.workspaces model looks
  have changed := stepwise.applyChanges backlog.workspaces _ removed
  rw [catchUp, applyChanges_eq_pure removed, pure_bind, align_eq_pure changed, pure_bind]
  dsimp only
  rw [applyWindowChanges_eq_pure, pure_bind]
  exact inAnyOrder_eq_pure fun _ shuffled =>
    Model.growOrphans_eq_of_perm bar _ model.orphans.keys_nodup shuffled

theorem nextModel_eq_pure (looks : tracker.model.Looks Model.Whatever) (snapshot : Snapshot) :
    nextModel snapshot tracker = pure (tracker.nextModel snapshot) := by
  rw [nextModel, Tracker.nextModel]
  dsimp only
  split
  · rw [catchUp_eq_pure looks, pure_bind, observe_eq_pure]
  · rw [startOver_eq_pure, pure_bind, observe_eq_pure]

theorem tick_eq_pure (looks : tracker.model.Looks Model.Whatever) (snapshot : Snapshot) :
    tick snapshot tracker = pure (tracker.tick snapshot) := by
  rw [tick, nextModel_eq_pure looks, pure_bind]
  rfl

/-- Windows wait under their own addresses after every tick, whatever addresses come in. -/
theorem looks_tick (looks : tracker.model.Looks Model.Whatever) (snapshot : Snapshot) :
    (tracker.tick snapshot).model.Looks Model.Whatever :=
  looks_nextModel looks (Model.respects_whatever _) (Model.allowed_whatever snapshot)
    fun _ _ change _ _ => Model.brings_whatever _ snapshot _ change

theorem looks_run [Pattern.Engine] (config : BarConfig) (inputs : List Input) :
    (Tracker.run config inputs).model.Looks Model.Whatever := by
  refine run_induction (motive := fun tracker => tracker.model.Looks Model.Whatever)
    (Model.Looks.cleared Model.empty) fun tracker looks input _ => ?_
  cases input with
  | event event => exact looks
  | snapshot snapshot => exact looks_tick looks snapshot

theorem run_eq_pure [Pattern.Engine] (config : BarConfig) (inputs : List Input) :
    run config inputs = pure (Tracker.run config inputs) := by
  refine foldlM_eq_pure (fun tracker => tracker.model.Looks Model.Whatever)
    (fun tracker looks input _ => ?_) (fun tracker looks input _ => ?_)
    (Model.Looks.cleared Model.empty)
  · cases input with
    | event event => rfl
    | snapshot snapshot => exact tick_eq_pure looks snapshot
  · cases input with
    | event event => exact looks
    | snapshot snapshot => exact looks_tick looks snapshot

end AnyOrder

/-- It does not matter in which order the windows that wait are visited. A run that visits them in
whatever order it likes, every time anew, comes to the tracker that visits them in the order of
their addresses, and to no other one. From there on every tick that does so comes to one tracker as
well, with one model and one row of buttons. -/
theorem ordered_run [Pattern.Engine] (config : BarConfig) (inputs : List Input)
    (snapshot : Snapshot) :
    let tracker := run config inputs
    (AnyOrder.run config inputs).run = {tracker} ∧
      (AnyOrder.tick snapshot tracker).run = {tracker.tick snapshot} ∧
      ∀ after ∈ (AnyOrder.tick snapshot tracker).run,
        after.model = (tracker.tick snapshot).model ∧
          after.buttons = (tracker.tick snapshot).buttons := by
  intro tracker
  have looks := AnyOrder.looks_run config inputs
  have single := AnyOrder.tick_eq_pure looks snapshot
  refine ⟨AnyOrder.run_eq_pure config inputs, single, fun after reached => ?_⟩
  rw [single] at reached
  obtain rfl : after = tracker.tick snapshot := reached
  exact ⟨rfl, rfl⟩

end Tracker

end Deskbar
