/-
This file says where a window can go in a tick. While workspaces change a window stays where it
is, unless it is on a workspace that is removed, waits for one whose report comes, or is reported on
one that comes onto the bar. A change of a window that is not about it does not move it either, and
at most tells it whether it has the focus.

Whatever is to be kept for a window through a tick is therefore shown for these few journeys, and
not for every operation again.
-/

import Deskbar.Proofs.Agreement
import Deskbar.Proofs.Ownership
import Deskbar.Proofs.Waiting

namespace Deskbar

/-! ### Journeys -/

/-- How the window with an address comes onto the workspace of a report, which stands under a
key: the workspace claims it, or gathers it from the snapshot when it has come onto the bar. -/
inductive Place.Enters (bar : Bar) (snapshot : Snapshot) (model : Model)
    (report : ReportedWorkspace) (address : String) (key : Nat) : Place → Place → Prop where
  | claimed {window : Window} (waits : window.workspace = workspaceReference report.name) :
    Enters bar snapshot model report address key (.waiting window)
      (window.placeOn bar.rewriter key)
  | gathered (place : Place) {reported : ReportedWindow} (listed : reported ∈ snapshot.windows)
      (itsOwn : plainAddress reported.address = address)
      (counted : reported.workspace.id = report.id) (joins : model.withId? report.id = none) :
    Enters bar snapshot model report address key place
      ((Window.ofIdentity reported.workspace.name reported.address reported.windowClass
        reported.title).placeOn bar.rewriter key)

/-- A window stays where it is, and if it waits it may be told whether it has the focus. -/
inductive Place.Told : Place → Place → Prop where
  | stays (place : Place) : Told place place
  | told (window : Window) (active : Bool) :
    Told (.waiting window) (.waiting (window.withFocus active))

namespace Place

theorem Told.trans {first second third : Place} (told : first.Told second)
    (toldAgain : second.Told third) : first.Told third := by
  cases told with
  | stays => exact toldAgain
  | told window active =>
    cases toldAgain with
    | stays => exact .told window active
    | told _ activeAgain => exact .told window activeAgain

/-- A window that is told something keeps its owner. -/
theorem Told.owner {before after : Place} (told : before.Told after) :
    after.holding.owner = before.holding.owner := by
  cases told <;> rfl

/-- A window that was given to a workspace does not wait. -/
theorem orphan_placeOn (rewriter : Rewriter) (key : Nat) (window : Window) :
    (window.placeOn rewriter key).holding.orphan = none := by
  rw [Window.placeOn]
  split <;> rfl

/-- What a model holds about a window says where it is. -/
theorem eq_of_holding {first second : Place} (same : first.holding = second.holding) :
    first = second := by
  have owner := congrArg Holding.owner same
  have orphan := congrArg Holding.orphan same
  cases first with
  | nowhere => cases second with
    | nowhere => rfl
    | waiting window => cases owner
    | shown key text => cases owner
  | waiting window => cases second with
    | nowhere => cases owner
    | waiting other => rw [Option.some.inj orphan]
    | shown key text => cases owner
  | shown key text => cases second with
    | nowhere => cases owner
    | waiting window => cases owner
    | shown otherKey otherText =>
      obtain rfl := Owner.workspace.inj (Option.some.inj owner)
      have onKey := congrFun (congrArg Holding.text same) key
      simp only [holding, if_true] at onKey
      rw [Option.some.inj onKey]

end Place

namespace Model

theorem Locates.unique {model : Model} {address : String} {place other : Place}
    (located : model.Locates address place) (locatedToo : model.Locates address other) :
    place = other := Place.eq_of_holding (located.symm.trans locatedToo)

/-! ### Claims -/

section Claims

variable {model : Model} {address : String} {place : Place}

theorem claimOne_of_not_waiting (absent : model.orphans.get? address = none) (bar : Bar)
    (key : Nat) : model.claimOne bar key address = model := by
  rw [claimOne, absent]

theorem holding_claimOne_of_ne (owned : model.Owned) (bar : Bar) (key : Nat) {other : String}
    (different : address ≠ other) :
    (model.claimOne bar key other).holding address = model.holding address := by
  rw [claimOne]
  split
  · rfl
  · next window waits =>
    have named : window.address = other := (owned.waiting waits).2.1
    refine (holding_place_of_ne _ bar key window (named ▸ different)).trans ?_
    exact holding_forget_of_ne model different

theorem locates_claimOne (owned : model.Owned) (bar : Bar) {key : Nat} {workspace : Workspace}
    (present : model.workspaces.get? key = some workspace) {window : Window}
    (located : model.Locates address (.waiting window)) :
    (model.claimOne bar key address).Locates address (window.placeOn bar.rewriter key) := by
  have waits : model.orphans.get? address = some window := located.orphan
  have named : window.address = address := (owned.waiting waits).2.1
  rw [claimOne, waits]
  subst named
  exact locates_place bar (locates_forget located) present

/-- Of windows that are claimed one after the other each one goes to the workspace: until its turn
comes it waits, and after that nothing is left to claim. -/
theorem locates_claimEach (owned : model.Owned) (bar : Bar) {key : Nat} {workspace : Workspace}
    (present : model.workspaces.get? key = some workspace) {window : Window}
    (waiting : model.Locates address (.waiting window)) {addresses : List String}
    (member : address ∈ addresses) :
    (model.claimEach bar key addresses).Locates address (window.placeOn bar.rewriter key) := by
  have turn : ∀ next : Model, next.Owned ∧ next.outline = model.outline ∧
      (next.Locates address (.waiting window) ∨
        next.Locates address (window.placeOn bar.rewriter key)) →
      (next.claimOne bar key address).Locates address (window.placeOn bar.rewriter key) := by
    rintro next ⟨kept, same, waits | claimed⟩
    · obtain ⟨here, herePresent, -⟩ := get?_of_outline same.symm present
      exact locates_claimOne kept bar herePresent waits
    · rwa [claimOne_of_not_waiting (claimed.orphan.trans (Place.orphan_placeOn ..))]
  refine foldl_of_mem
    (fun next : Model => next.Owned ∧ next.outline = model.outline ∧
      (next.Locates address (.waiting window) ∨
        next.Locates address (window.placeOn bar.rewriter key)))
    (fun next : Model => next.Locates address (window.placeOn bar.rewriter key))
    member ?_ turn ?_ ⟨owned, rfl, Or.inl waiting⟩
  · rintro next ⟨kept, same, located⟩ other -
    refine ⟨kept.claimOne bar key other, (outline_claimOne ..).trans same, ?_⟩
    by_cases itsTurn : address = other
    · exact Or.inr (itsTurn ▸ turn next ⟨kept, same, located⟩)
    · have untouched := holding_claimOne_of_ne kept bar key itsTurn
      exact located.imp (Locates.of_holding · untouched) (Locates.of_holding · untouched)
  · rintro next ⟨kept, -⟩ located other - different
    exact located.of_holding (holding_claimOne_of_ne kept bar key different.symm)

/-- A claim takes a window that waits for the workspace, and leaves every other one. -/
theorem exists_locates_claim (owned : model.Owned) (bar : Bar) {key : Nat} {workspace : Workspace}
    (present : model.workspaces.get? key = some workspace)
    (located : model.Locates address place) :
    ∃ next : Place, (model.claim bar key).Locates address next ∧
      (next = place ∨ ∃ window : Window, place = .waiting window ∧
        window.workspace = workspace.reference ∧ next = window.placeOn bar.rewriter key) := by
  simp only [claim, present]
  by_cases member : address ∈ model.waitingFor workspace.reference
  · obtain ⟨entry, kept, rfl⟩ := List.mem_map.mp member
    obtain ⟨waits, refers⟩ := List.mem_filter.mp kept
    have waiting : model.Locates entry.1 (.waiting entry.2) :=
      (owned.waiting (SortedMap.get?_eq_some_iff.mpr waits)).1
    have here : place = .waiting entry.2 := located.unique waiting
    refine ⟨_, ?_, Or.inr ⟨entry.2, here, of_decide_eq_true refers, rfl⟩⟩
    exact locates_claimEach owned bar present waiting member
  · refine ⟨place, located.of_holding ?_, Or.inl rfl⟩
    refine (List.foldlRecOn _ (claimOne bar key)
      (motive := fun next => Owned next ∧ next.holding address = model.holding address)
      ⟨owned, rfl⟩ ?_).2
    rintro next ⟨kept, same⟩ other otherMember
    have distinct : address ≠ other := fun equal => member (equal ▸ otherMember)
    exact ⟨kept.claimOne bar key other,
      (holding_claimOne_of_ne kept bar key distinct).trans same⟩

end Claims

/-! ### Reports -/

section Reports

variable {model : Model} {address : String} {place : Place} {snapshot : Snapshot}

/-- A workspace gathers a window only from a report that counts the window to it. -/
theorem exists_locates_gather (bar : Bar) {key : Nat} {workspace : Workspace} (id : Int)
    (present : model.workspaces.get? key = some workspace)
    (located : model.Locates address place) :
    ∃ next : Place, (model.gather bar snapshot key id).Locates address next ∧
      (next = place ∨ ∃ reported ∈ snapshot.windows, plainAddress reported.address = address ∧
        reported.workspace.id = id ∧
        next = (Window.ofIdentity reported.workspace.name reported.address reported.windowClass
          reported.title).placeOn bar.rewriter key) := by
  refine (List.foldlRecOn _ (gatherOne bar key)
    (motive := fun next => next.outline = model.outline ∧
      ∃ after : Place, next.Locates address after ∧
        (after = place ∨ ∃ reported ∈ snapshot.windows, plainAddress reported.address = address ∧
          reported.workspace.id = id ∧
          after = (Window.ofIdentity reported.workspace.name reported.address
            reported.windowClass reported.title).placeOn bar.rewriter key))
    ⟨rfl, place, located, Or.inl rfl⟩ ?_).2
  rintro next ⟨same, after, here, origin⟩ reported member
  obtain ⟨listed, counted⟩ := List.mem_filter.mp member
  rw [gatherOne]
  split
  · exact ⟨same, after, here, origin⟩
  · refine ⟨(outline_place ..).trans same, ?_⟩
    by_cases itsOwn : address = plainAddress reported.address
    · obtain ⟨there, therePresent, -⟩ := get?_of_outline same.symm present
      subst itsOwn
      exact ⟨_, locates_place bar here therePresent,
        Or.inr ⟨reported, listed, rfl, of_decide_eq_true counted, rfl⟩⟩
    · exact ⟨after, here.of_holding (holding_place_of_ne next bar key _ itsOwn), origin⟩

/-- When a workspace has gathered its windows and claims those that wait, a window comes onto it
in one of the two ways or stays where it is. -/
theorem exists_locates_gather_claim (owned : model.Owned) (addressed : snapshot.IsAddressed)
    (bar : Bar) {key : Nat} {workspace : Workspace} {origin : Model} {report : ReportedWorkspace}
    (present : model.workspaces.get? key = some workspace)
    (referred : workspace.reference = workspaceReference report.name)
    (joins : origin.withId? report.id = none) (located : model.Locates address place) :
    ∃ next : Place,
      ((model.gather bar snapshot key report.id).claim bar key).Locates address next ∧
      (next = place ∨ place.Enters bar snapshot origin report address key next) := by
  obtain ⟨gathered, here, origin⟩ := exists_locates_gather bar report.id present located
  obtain ⟨there, therePresent, same⟩ := get?_of_outline (outline_gather ..).symm present
  obtain ⟨next, after, claims⟩ :=
    exists_locates_claim (owned.gather addressed bar key report.id) bar therePresent here
  refine ⟨next, after, ?_⟩
  rcases origin with rfl | ⟨reported, listed, itsOwn, counted, rfl⟩
  · rcases claims with rfl | ⟨window, rfl, refers, rfl⟩
    · exact Or.inl rfl
    · rw [Workspace.reference_of_outline same, referred] at refers
      exact Or.inr (.claimed refers)
  · rcases claims with rfl | ⟨window, waits, -⟩
    · exact Or.inr (.gathered place listed itsOwn counted joins)
    · have settled := Place.orphan_placeOn bar.rewriter key (Window.ofIdentity
        reported.workspace.name reported.address reported.windowClass reported.title)
      rw [waits] at settled
      cases settled

/-- When a report comes a window stays where it is, or comes onto the workspace of the report. -/
theorem exists_locates_ensure (sound : model.Sound) (addressed : snapshot.IsAddressed) (bar : Bar)
    (report : ReportedWorkspace) (located : model.Locates address place) :
    ∃ next : Place, (model.ensure bar snapshot report).Locates address next ∧
      (next = place ∨ ∃ key workspace, bar.takesReport report = true ∧
        (model.ensure bar snapshot report).workspaces.get? key = some workspace ∧
        workspace.id = some report.id ∧
        place.Enters bar snapshot model report address key next) := by
  cases taken : bar.takesReport report with
  | false =>
    rw [ensure_of_refused taken]
    exact ⟨place, located, Or.inl rfl⟩
  | true =>
    cases found : model.forReport? report with
    | some workspace =>
      obtain ⟨present, identity⟩ := sound.identified.forReport? found
      have adopted := get?_update_self present fun workspace => workspace.adopt report
      have outlined := outline_ensure_of_found taken snapshot found
      obtain ⟨after, afterPresent, same⟩ := get?_of_outline outlined.symm adopted
      have reported : after.id = some report.id := Workspace.id_of_outline same
      have kept : (model.update workspace.key fun workspace => workspace.adopt report).Locates
          address place := located.of_holding (holding_update fun _ _ => rfl)
      have owned : (model.update workspace.key fun workspace => workspace.adopt report).Owned :=
        sound.owned.update fun _ _ => rfl
      have ensured := ensure_of_found taken snapshot found
      dsimp only at ensured
      rcases identity with itsOwn | ⟨unreported, -, missing⟩
      · rw [itsOwn, Option.isSome_some, if_pos rfl] at ensured
        obtain ⟨next, here, claims⟩ := exists_locates_claim owned bar adopted kept
        rw [ensured] at afterPresent ⊢
        refine ⟨next, here, claims.imp_right ?_⟩
        rintro ⟨window, rfl, refers, rfl⟩
        exact ⟨workspace.key, after, rfl, afterPresent, reported, .claimed refers⟩
      · rw [unreported, Option.isSome_none, if_neg Bool.false_ne_true] at ensured
        obtain ⟨next, here, enters⟩ :=
          exists_locates_gather_claim owned addressed bar adopted rfl missing kept
        rw [ensured] at afterPresent ⊢
        exact ⟨next, here, enters.imp_right fun entered =>
          ⟨workspace.key, after, rfl, afterPresent, reported, entered⟩⟩
    | none =>
      have missing := withId?_of_forReport?_eq_none found
      obtain ⟨created, createdPresent, adopted⟩ := exists_adopted_of_create bar report model
      have outlined := outline_ensure_of_missing taken snapshot found
      obtain ⟨after, afterPresent, same⟩ := get?_of_outline outlined.symm createdPresent
      have reported : after.id = some report.id :=
        (Workspace.id_of_outline same).trans (Workspace.id_of_adopted adopted)
      have kept : (model.create bar report).Locates address place := located.of_holding
        (holding_insert model sound.identified.get?_next rfl _ address)
      have owned : (model.create bar report).Owned := sound.owned.insert sound.identified rfl
      obtain ⟨next, here, enters⟩ := exists_locates_gather_claim owned addressed bar createdPresent
        (Workspace.reference_of_adopted adopted) missing kept
      rw [ensure_of_missing taken snapshot found] at afterPresent ⊢
      exact ⟨next, here, enters.imp_right fun entered =>
        ⟨model.lastKey + 1, after, rfl, afterPresent, reported, entered⟩⟩

/-- Removal of a workspace moves the windows that are on it, and no other one. -/
theorem exists_locates_remove (owned : model.Owned) (snapshot : Snapshot) (key : Nat)
    (located : model.Locates address place) :
    ∃ next : Place, (model.remove snapshot key).Locates address next ∧
      ((next = place ∧ ∀ text, place ≠ .shown key text) ∨
        ∃ text, place = .shown key text ∧
          next = .ofOrphan? (snapshot.leftBehind? model.focused address text)) := by
  cases present : model.workspaces.get? key with
  | none =>
    rw [remove_of_absent snapshot present]
    refine ⟨place, located, Or.inl ⟨rfl, ?_⟩⟩
    rintro text rfl
    have onKey := (located.text key).trans (if_pos rfl)
    rw [textOn?_of_absent present] at onKey
    cases onKey
  | some workspace =>
    have plain : ∀ other ∈ workspace.windows.keys, plainAddress other = other := by
      intro other member
      obtain ⟨text, found⟩ := SortedMap.mem_keys_iff.mp member
      exact (owned.shown ((textOn?_of_get? present other).trans found)).2
    cases found : workspace.windows.get? address with
    | none =>
      refine ⟨place, located.of_holding (holding_remove_of_elsewhere snapshot present plain found),
        Or.inl ⟨rfl, ?_⟩⟩
      rintro text rfl
      have onKey := (located.text key).trans (if_pos rfl)
      rw [textOn?_of_get? present, found] at onKey
      cases onKey
    | some text =>
      have here := (owned.shown ((textOn?_of_get? present address).trans found)).1
      exact ⟨_, locates_remove snapshot present plain here,
        Or.inr ⟨text, located.unique here, rfl⟩⟩

theorem holding_addDeclared (identified : model.Identified) (bar : Bar) (raw address : String) :
    (model.addDeclared bar raw).holding address = model.holding address := by
  rw [addDeclared]
  dsimp only
  split
  · exact holding_insert model identified.get?_next rfl _ address
  · rfl

theorem holding_addAllDeclared (identified : model.Identified) (bar : Bar) (address : String) :
    (model.addAllDeclared bar).holding address = model.holding address := by
  refine (List.foldlRecOn bar.persistent (addDeclared bar)
    (motive := fun next => Identified next ∧ next.holding address = model.holding address)
    ⟨identified, rfl⟩ fun next ⟨kept, same⟩ raw _ => ⟨kept.addDeclared bar raw, ?_⟩).2
  exact (holding_addDeclared kept bar raw address).trans same

end Reports

/-! ### Announced changes of other windows -/

section Elsewhere

variable {model : Model} {address : String} {place : Place}

theorem holding_settle_of_ne (model : Model) (bar : Bar) {window : Window}
    (different : address ≠ window.address) :
    (model.settle bar window).holding address = model.holding address := by
  rw [settle]
  split
  · exact holding_place_of_ne model bar _ window different
  · exact holding_orphan_of_ne model different

theorem holding_moveWindow_of_ne (owned : model.Owned) (bar : Bar) (snapshot : Snapshot)
    {moved : String} (plain : plainAddress moved = moved) (target : String)
    (different : address ≠ moved) :
    (model.moveWindow bar snapshot moved target).holding address = model.holding address := by
  have withdrawn := holding_withdraw_of_ne model different
  rw [moveWindow]
  dsimp only
  split
  · next window found =>
    have named : window.address = moved := by
      rcases Option.or_eq_some_iff.mp found with taken | ⟨-, reported⟩
      · obtain ⟨origin, fromOwner, rfl⟩ := Option.map_eq_some_iff.mp taken
        exact (owned.address_of_withdraw fromOwner).1
      · obtain ⟨report, -, rfl⟩ := Option.map_eq_some_iff.mp reported
        exact plain
    exact (holding_settle_of_ne _ bar (named ▸ different)).trans withdrawn
  · exact withdrawn

theorem holding_retitleWindow_of_ne (model : Model) (bar : Bar) (snapshot : Snapshot)
    {retitled : String} (title : Option String) (different : address ≠ retitled) :
    (model.retitleWindow bar snapshot retitled title).holding address =
      model.holding address := by
  rw [retitleWindow]
  split
  · exact holding_setText_of_ne model _ _ different
  · split
    · exact holding_modify_of_ne model _ different
    · rfl
  · rfl

theorem holding_markUrgent (model : Model) (snapshot : Snapshot) (marked address : String) :
    (model.markUrgent snapshot marked).holding address = model.holding address := by
  rw [markUrgent]
  split
  · exact holding_update fun _ _ => rfl
  · rfl

/-- Every window stays where it is when everyone is told which window has the focus. -/
theorem exists_locates_shareFocus (located : model.Locates address place) :
    ∃ next : Place, model.shareFocus.Locates address next ∧ place.Told next := by
  have focused : model.focusWorkspaces.Locates address place := by
    refine located.of_holding (holding_mapValues (fun workspace => ?_) model address)
    rfl
  refine List.foldlRecOn model.orphans.keys focusOrphan
    (motive := fun next => ∃ after : Place, next.Locates address after ∧ place.Told after)
    ⟨place, focused, .stays place⟩ ?_
  rintro next ⟨after, here, told⟩ other -
  by_cases itsTurn : address = other
  · subst itsTurn
    cases after with
    | waiting window =>
      exact ⟨_, locates_modify here _, told.trans (.told window (next.hasFocusOn address))⟩
    | nowhere =>
      refine ⟨.nowhere, here.of_holding ?_, told⟩
      rw [focusOrphan, SortedMap.modify_eq_self fun window waits =>
        absurd (waits.symm.trans here.orphan) (Option.some_ne_none window)]
    | shown key text =>
      refine ⟨.shown key text, here.of_holding ?_, told⟩
      rw [focusOrphan, SortedMap.modify_eq_self fun window waits =>
        absurd (waits.symm.trans here.orphan) (Option.some_ne_none window)]
  · exact ⟨after, here.of_holding (holding_modify_of_ne next _ itsTurn), told⟩

end Elsewhere

end Model

/-- Whether a change opens, closes, moves or retitles the window with an address. -/
def WindowChange.touches (address : String) : WindowChange → Bool
  | .opened other _ _ _ => plainAddress other = address
  | .closed other => plainAddress other = address
  | .moved other _ => plainAddress other = address
  | .retitled other _ => plainAddress other = address
  | .urgent _ => false
  | .focused _ => false

namespace Model

section Elsewhere

variable {model : Model} {address : String} {place : Place}

/-- A change that leaves the focus alone changes nothing for a window that it does not touch. -/
theorem holding_applyWindowChange (owned : model.Owned) (bar : Bar) (snapshot : Snapshot)
    {change : WindowChange} (addressed : change.IsAddressed)
    (elsewhere : change.touches address = false)
    (unfocused : ∀ focused, change ≠ .focused focused) :
    (model.applyWindowChange bar snapshot change).holding address = model.holding address := by
  cases change with
  | opened other target windowClass title =>
    have different : address ≠ plainAddress other := Ne.symm (of_decide_eq_false elsewhere)
    rw [applyWindowChange, openWindow]
    split
    · rfl
    · exact holding_settle_of_ne model bar different
  | closed other =>
    have different : address ≠ plainAddress other := Ne.symm (of_decide_eq_false elsewhere)
    exact holding_withdraw_of_ne model different
  | moved other target =>
    have different : address ≠ plainAddress other := Ne.symm (of_decide_eq_false elsewhere)
    exact holding_moveWindow_of_ne owned bar snapshot
      (addressed other rfl).plainAddress_plainAddress target different
  | retitled other title =>
    have different : address ≠ plainAddress other := Ne.symm (of_decide_eq_false elsewhere)
    exact holding_retitleWindow_of_ne model bar snapshot title different
  | urgent other => exact holding_markUrgent model snapshot _ address
  | focused focused => exact absurd rfl (unfocused focused)

/-- A change leaves a window that it does not touch where it is. -/
theorem exists_locates_applyWindowChange (owned : model.Owned) (bar : Bar) (snapshot : Snapshot)
    {change : WindowChange} (addressed : change.IsAddressed)
    (elsewhere : change.touches address = false) (located : model.Locates address place) :
    ∃ next : Place, (model.applyWindowChange bar snapshot change).Locates address next ∧
      place.Told next := by
  by_cases focuses : ∃ focused, change = .focused focused
  · obtain ⟨focused, rfl⟩ := focuses
    have turned : Locates { model with focused := focused.map plainAddress } address place :=
      located
    exact exists_locates_shareFocus turned
  · have kept := holding_applyWindowChange owned bar snapshot addressed elsewhere
      fun focused same => focuses ⟨focused, same⟩
    exact ⟨place, located.of_holding kept, .stays place⟩

theorem exists_locates_applyWindowChanges (owned : model.Owned) (bar : Bar) (snapshot : Snapshot)
    {changes : List WindowChange} (addressed : ∀ change ∈ changes, change.IsAddressed)
    (elsewhere : ∀ change ∈ changes, change.touches address = false)
    (located : model.Locates address place) :
    ∃ next : Place, (model.applyWindowChanges bar snapshot changes).Locates address next ∧
      place.Told next := by
  refine (List.foldlRecOn changes (applyWindowChange bar snapshot)
    (motive := fun next => Owned next ∧
      ∃ after : Place, next.Locates address after ∧ place.Told after)
    ⟨owned, place, located, .stays place⟩ ?_).2
  rintro next ⟨kept, after, here, told⟩ change member
  obtain ⟨last, there, toldAgain⟩ := exists_locates_applyWindowChange kept bar snapshot
    (addressed change member) (elsewhere change member) here
  exact ⟨kept.applyWindowChange bar snapshot (addressed change member), last, there,
    told.trans toldAgain⟩

end Elsewhere

/-! ### The end of a tick -/

section End

variable {model : Model} {address : String} {place : Place}

/-- Windows that did not wait when the tick began do not grow older in it. -/
theorem holding_growOrphans_of_not_mem (bar : Bar) {addresses : List String}
    (distinct : addresses.Nodup) (absent : address ∉ addresses) (model : Model) :
    (model.growOrphans bar addresses).holding address = model.holding address := by
  refine holding_ext ?_ ?_ fun key => ?_
  · rw [get?_owners_growOrphans bar distinct, if_neg fun both => absent both.1]
  · rw [get?_orphans_growOrphans bar distinct, if_neg absent]
  · rw [textOn?, workspaces_growOrphans, textOn?]

/-- Texts do not change when windows that wait grow older. -/
theorem textOn?_growOrphans (bar : Bar) (addresses : List String) (model : Model) (key : Nat)
    (address : String) :
    (model.growOrphans bar addresses).textOn? key address = model.textOn? key address := by
  rw [textOn?, workspaces_growOrphans, textOn?]

theorem exists_locates_observe (bar : Bar) (snapshot : Snapshot)
    (located : model.Locates address place) :
    ∃ next : Place, (model.observe bar snapshot).Locates address next ∧ place.Told next := by
  refine exists_locates_shareFocus (located.of_holding ?_)
  exact (holding_mapValues (windows_observe bar snapshot) model address :)

/-- An observation leaves every workspace its windows. -/
theorem textOn?_observe (bar : Bar) (snapshot : Snapshot) (model : Model) (key : Nat)
    (address : String) :
    (model.observe bar snapshot).textOn? key address = model.textOn? key address := by
  rw [textOn?, get?_observe, Option.bind_map, textOn?]
  exact congrArg (Option.bind _) (funext fun workspace =>
    congrArg (SortedMap.get? · address) (windows_observe bar snapshot workspace))

end End

end Model

end Deskbar
