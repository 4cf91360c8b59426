/-
This file says where a change of a window takes the windows of a model. It takes a window from one
place to another one, and of all the rest it reads the workspace that a name means and the window
that has the focus. Neither hangs on other windows, so what a change does to one window is a
function of the place of that window, and is the same in every model with the same workspaces and
the same focus.

The one trace that a change leaves on a workspace beside its windows is urgency, and which workspace
becomes urgent hangs on the owner of the window alone.
-/

import Deskbar.Proofs.Attention
import Deskbar.Proofs.Journey
import Deskbar.Proofs.Names

namespace Deskbar

/-! ### Places -/

namespace Place

/-- The window that is taken from a place and sent to another workspace. -/
def sent? (address target : String) : Place → Option Window
  | .nowhere => none
  | .waiting window => some (window.sendTo target)
  | .shown _ text => some (Window.ofText target address text)

/-- Whether an opened window, whose reference may mean the workspace with a key, is at a place
already. -/
def repeats (window : Window) (meant? : Option Nat) : Place → Bool
  | .nowhere => false
  | .waiting other => meant?.isNone && decide (other.workspace = window.workspace)
  | .shown key _ => meant? = some key

/-- The place of a window with another title. The report on it, if there is one, has its class. -/
def retitled (rewriter : Rewriter) (report? : Option ReportedWindow) (title : Option String) :
    Place → Place
  | .nowhere => .nowhere
  | .waiting window =>
    .waiting (((title.or (report?.map ReportedWindow.title)).bind window.retitle?).getD window)
  | .shown key text =>
    .shown key (report?.elim text fun report =>
      rewriter.windowText report.windowClass (title.getD report.title))

/-- The place of a window that knows whether it has the focus. -/
def told (active : Bool) : Place → Place
  | .waiting window => .waiting (window.withFocus active)
  | place => place

/-- The place of a window a tick later. A window that has waited for too long is forgotten. -/
def older (bar : Bar) : Place → Place
  | .waiting window => .ofOrphan? (bar.grown? window)
  | place => place

theorem Told.eq_told {before after : Place} (told : before.Told after) {active : Bool}
    (known : ∀ window, after = .waiting window → window.active = active) :
    after = before.told active := by
  cases told with
  | stays =>
    cases before with
    | waiting window =>
      rw [Place.told, ← known window rfl]
      rfl
    | nowhere => rfl
    | shown key text => rfl
  | told window focus =>
    obtain rfl : focus = active := known _ rfl
    rfl

end Place

namespace Model

/-! ### What a change reads -/

/-- The key of the workspace that a name means. -/
def meant? (model : Model) (raw : String) : Option Nat := (model.named? raw).map Workspace.key

/-- Where a window goes that is given to the workspace it refers to. -/
def destination (bar : Bar) (window : Window) (model : Model) : Place :=
  match model.meant? window.workspace with
  | some key => window.placeOn bar.rewriter key
  | none => .waiting (window.withFocus (model.hasFocusOn window.address))

/-- The window that is given to a workspace by a move: the one that is at a place, or else the one
that is reported. -/
def movedWindow? (snapshot : Snapshot) (address target : String) (place : Place) : Option Window :=
  (place.sent? address target).or ((snapshot.window? address).map fun report =>
    Window.ofIdentity target address report.windowClass report.title)

/-- Where a change takes the window that it touches. -/
def takes (bar : Bar) (snapshot : Snapshot) (model : Model) (place : Place) :
    WindowChange → Place
  | .opened address target windowClass title =>
    let window := Window.ofIdentity target address windowClass title
    if place.repeats window (model.meant? window.workspace) then place
    else model.destination bar window
  | .closed _ => .nowhere
  | .moved address target =>
    match movedWindow? snapshot (plainAddress address) target place with
    | some window => model.destination bar window
    | none => .nowhere
  | .retitled address title =>
    place.retitled bar.rewriter (snapshot.window? (plainAddress address)) title
  | .urgent _ => place
  | .focused _ => place

/-- Where a change leaves a window that it does not touch: where it is, knowing whether it has the
focus. -/
def leaves (address : String) (place : Place) : WindowChange → Place
  | .focused focused => place.told (focused.map plainAddress = some address)
  | _ => place

/-- Where a change leads the window with an address. -/
def leads (bar : Bar) (snapshot : Snapshot) (model : Model) (address : String) (place : Place)
    (change : WindowChange) : Place :=
  if change.touches address then model.takes bar snapshot place change
  else leaves address place change

/-- The key of the workspace that a change makes urgent. -/
def marks? (snapshot : Snapshot) (model : Model) : WindowChange → Option Nat
  | .urgent address => model.workspaceOf? snapshot (plainAddress address)
  | _ => none

section Outlines

variable {first second : Model}

/-- A name means the same workspace in models with the same workspaces. -/
theorem meant?_of_outline (identified : first.Identified) (same : second.outline = first.outline)
    (raw : String) : second.meant? raw = first.meant? raw := by
  refine Option.ext fun key => ?_
  rw [meant?, meant?, (identified.of_outline same).named?_iff, identified.named?_iff]
  exact (KeepsNames.of_outline same).answers_iff raw key

theorem map_key_withId?_of_outline (identified : first.Identified)
    (same : second.outline = first.outline) (id : Int) :
    (second.withId? id).map Workspace.key = (first.withId? id).map Workspace.key := by
  cases found : second.withId? id with
  | none =>
    cases foundToo : first.withId? id with
    | none => rfl
    | some workspace =>
      obtain ⟨present, reported⟩ := identified.withId? foundToo
      obtain ⟨other, otherPresent, outlined⟩ := get?_of_outline same.symm present
      refine absurd ?_ (withId?_eq_none_iff.mp found _ other otherPresent)
      rw [Workspace.id_of_outline outlined, reported]
  | some workspace =>
    obtain ⟨present, reported⟩ := (identified.of_outline same).withId? found
    obtain ⟨other, otherPresent, outlined⟩ := get?_of_outline same present
    rw [identified.withId?_eq_some otherPresent ((Workspace.id_of_outline outlined).trans reported)]
    exact congrArg some (Workspace.key_of_outline outlined).symm

theorem destination_of_outline (identified : first.Identified)
    (same : second.outline = first.outline) (focused : second.focused = first.focused) (bar : Bar)
    (window : Window) : second.destination bar window = first.destination bar window := by
  rw [destination, meant?_of_outline identified same, hasFocusOn, focused, ← hasFocusOn,
    ← destination]

/-- Where a change takes a window does not hang on the other windows. -/
theorem leads_of_outline (identified : first.Identified) (same : second.outline = first.outline)
    (focused : second.focused = first.focused) (bar : Bar) (snapshot : Snapshot) (address : String)
    (place : Place) (change : WindowChange) :
    second.leads bar snapshot address place change =
      first.leads bar snapshot address place change := by
  have destinations := destination_of_outline identified same focused bar
  have taken : second.takes bar snapshot place change = first.takes bar snapshot place change := by
    cases change with
    | opened other target windowClass title =>
      simp only [takes, meant?_of_outline identified same, destinations]
    | moved other target => simp only [takes, destinations]
    | _ => rfl
  rw [leads, taken, ← leads]

theorem marks?_of_outline (identified : first.Identified) (same : second.outline = first.outline)
    (snapshot : Snapshot) {change : WindowChange}
    (owner : ∀ address, change = .urgent address →
      second.owners.get? (plainAddress address) = first.owners.get? (plainAddress address)) :
    second.marks? snapshot change = first.marks? snapshot change := by
  cases change with
  | urgent address =>
    have reported : ((snapshot.window? (plainAddress address)).bind fun report =>
        second.withId? report.workspace.id).map Workspace.key =
        ((snapshot.window? (plainAddress address)).bind fun report =>
          first.withId? report.workspace.id).map Workspace.key := by
      rw [Option.map_bind, Option.map_bind]
      exact congrArg (Option.bind _) (funext fun report =>
        map_key_withId?_of_outline identified same report.workspace.id)
    rw [marks?, marks?, workspaceOf?, workspaceOf?, owner address rfl, reported]
  | _ => rfl

end Outlines

/-! ### What a change does -/

section Effects

variable {model : Model} {address : String} {place : Place}

theorem locates_settle (identified : model.Identified) (bar : Bar) {window : Window}
    (located : model.Locates window.address place) :
    (model.settle bar window).Locates window.address (model.destination bar window) := by
  rw [settle, destination, meant?]
  cases found : model.named? window.workspace with
  | none => exact locates_orphan located
  | some workspace => exact locates_place bar located (identified.named? found)

theorem isReplay_eq (located : model.Locates address place) {window : Window}
    (named : window.address = address) :
    model.isReplay window = place.repeats window (model.meant? window.workspace) := by
  subst named
  rw [isReplay, located.owner, meant?]
  cases place with
  | nowhere => rfl
  | waiting other =>
    cases model.named? window.workspace with
    | none =>
      rw [located.orphan]
      rfl
    | some workspace => rfl
  | shown key text =>
    cases model.named? window.workspace with
    | none => rfl
    | some workspace =>
      simp only [Place.holding, Place.repeats, Option.map_some, Option.some.injEq,
        eq_comm (a := key)]

/-- A window that is taken from its owner and sent to another workspace is the one that is taken
from its place. -/
theorem map_sendTo_withdraw (located : model.Locates address place) (target : String) :
    ((model.withdraw address).1.map fun window => window.sendTo target) =
      place.sent? address target := by
  rw [withdraw, located.owner]
  cases place with
  | nowhere => rfl
  | waiting window => exact congrArg (Option.map fun window => window.sendTo target) located.orphan
  | shown key text =>
    have onKey : model.textOn? key address = some text := (located.text key).trans (if_pos rfl)
    obtain ⟨workspace, present, found⟩ := Option.bind_eq_some_iff.mp onKey
    simp only [Place.holding, present, found]
    rfl

theorem address_of_movedWindow? (owned : model.Owned) (located : model.Locates address place)
    (plain : plainAddress address = address) {snapshot : Snapshot} {target : String}
    {window : Window} (moved : movedWindow? snapshot address target place = some window) :
    window.address = address := by
  rcases Option.or_eq_some_iff.mp moved with sent | ⟨-, reported⟩
  · cases place with
    | nowhere => cases sent
    | waiting waiting =>
      rw [← Option.some.inj sent]
      exact (owned.waiting located.orphan).2.1
    | shown key text =>
      rw [← Option.some.inj sent]
      exact plain
  · obtain ⟨report, -, rfl⟩ := Option.map_eq_some_iff.mp reported
    exact plain

theorem locates_openWindow (identified : model.Identified) (bar : Bar) {window : Window}
    (located : model.Locates window.address place) :
    (model.openWindow bar window).Locates window.address
      (if place.repeats window (model.meant? window.workspace) then place
        else model.destination bar window) := by
  rw [openWindow, isReplay_eq located rfl]
  split
  · exact located
  · exact locates_settle identified bar located

theorem locates_moveWindow (sound : model.Sound) (bar : Bar) (snapshot : Snapshot)
    (plain : plainAddress address = address) (target : String)
    (located : model.Locates address place) :
    (model.moveWindow bar snapshot address target).Locates address
      (match movedWindow? snapshot address target place with
        | some window => model.destination bar window
        | none => .nowhere) := by
  have nowhere := locates_withdraw located
  have outlined := outline_withdraw address model
  rw [moveWindow]
  dsimp only
  rw [map_sendTo_withdraw located, ← movedWindow?]
  cases moved : movedWindow? snapshot address target place with
  | none => exact nowhere
  | some window =>
    have named := address_of_movedWindow? sound.owned located plain moved
    dsimp only
    rw [← destination_of_outline sound.identified outlined (focused_withdraw address model)]
    rw [← named] at nowhere ⊢
    rw [named] at nowhere ⊢
    subst named
    exact locates_settle (sound.identified.of_outline outlined) bar nowhere

theorem locates_retitleWindow (bar : Bar) (snapshot : Snapshot) (title : Option String)
    (located : model.Locates address place) :
    (model.retitleWindow bar snapshot address title).Locates address
      (place.retitled bar.rewriter (snapshot.window? address) title) := by
  rw [retitleWindow, located.owner]
  cases place with
  | nowhere => exact located
  | shown key text =>
    cases snapshot.window? address with
    | none => exact located
    | some report => exact locates_setText located _
  | waiting window =>
    rw [Place.retitled]
    simp only [Place.holding]
    cases title.or ((snapshot.window? address).map ReportedWindow.title) with
    | none => exact located
    | some replacement => exact locates_modify located _

theorem locates_shareFocus (located : model.Locates address place) :
    model.shareFocus.Locates address (place.told (model.hasFocusOn address)) := by
  obtain ⟨next, here, told⟩ := exists_locates_shareFocus located
  rw [← told.eq_told fun window same => active_shareFocus (here.orphan.trans (by rw [same]; rfl))]
  exact here

/-- A change takes a window where it leads from the place of that window. -/
theorem locates_applyWindowChange (sound : model.Sound) (bar : Bar) (snapshot : Snapshot)
    {change : WindowChange} (addressed : change.IsAddressed)
    (located : model.Locates address place) :
    (model.applyWindowChange bar snapshot change).Locates address
      (model.leads bar snapshot address place change) := by
  rw [leads]
  split
  · next touched =>
    cases change with
    | opened other target windowClass title =>
      obtain rfl : plainAddress other = address := of_decide_eq_true touched
      exact locates_openWindow sound.identified bar located
    | closed other =>
      obtain rfl : plainAddress other = address := of_decide_eq_true touched
      exact locates_withdraw located
    | moved other target =>
      obtain rfl : plainAddress other = address := of_decide_eq_true touched
      exact locates_moveWindow sound bar snapshot (addressed other rfl).plainAddress_plainAddress
        target located
    | retitled other title =>
      obtain rfl : plainAddress other = address := of_decide_eq_true touched
      exact locates_retitleWindow bar snapshot title located
    | urgent other => cases touched
    | focused other => cases touched
  · next elsewhere =>
    have kept := holding_applyWindowChange sound.owned bar snapshot addressed
      (Bool.eq_false_iff.mpr elsewhere)
    cases change with
    | focused focused =>
      have turned : Locates { model with focused := focused.map plainAddress } address place :=
        located
      exact locates_shareFocus turned
    | _ => exact located.of_holding (kept fun focused same => by cases same)

/-! ### What the end of a tick does -/

theorem locates_growOrphans (bar : Bar) {addresses : List String} (distinct : addresses.Nodup)
    (located : model.Locates address place) :
    (model.growOrphans bar addresses).Locates address
      (if address ∈ addresses then place.older bar else place) := by
  split
  · next member =>
    refine locates_iff.mpr ⟨?_, ?_, fun key => ?_⟩
    · rw [get?_owners_growOrphans bar distinct, located.orphan, located.owner]
      cases place with
      | nowhere => exact if_neg fun both => by cases both.2
      | shown key text => exact if_neg fun both => by cases both.2
      | waiting window =>
        simp only [Place.holding, member, true_and, Option.any_some, Place.older, Bar.grown?]
        split <;> rfl
    · rw [get?_orphans_growOrphans bar distinct, if_pos member, located.orphan]
      cases place with
      | nowhere => rfl
      | shown key text => rfl
      | waiting window =>
        simp only [Place.holding, Option.bind_some, Place.older]
        cases bar.grown? window <;> rfl
    · rw [textOn?_growOrphans, located.text]
      cases place with
      | nowhere => rfl
      | shown other text => rfl
      | waiting window =>
        rw [Place.older]
        cases bar.grown? window <;> rfl
  · next absent =>
    exact located.of_holding (holding_growOrphans_of_not_mem bar distinct absent model)

theorem locates_observe (bar : Bar) (snapshot : Snapshot) (located : model.Locates address place) :
    (model.observe bar snapshot).Locates address
      (place.told ((model.observe bar snapshot).hasFocusOn address)) := by
  have focus : (model.observe bar snapshot).hasFocusOn address =
      { model with focused := snapshot.focusedAddress?.or model.focused }.hasFocusOn address := by
    rw [hasFocusOn, focused_observe]
    rfl
  rw [focus]
  refine locates_shareFocus (located.of_holding ?_)
  exact (holding_mapValues (windows_observe bar snapshot) model address :)

end Effects

/-! ### Urgency and focus -/

theorem urgency_markUrgent (snapshot : Snapshot) (address : String) (model : Model) (key : Nat) :
    (model.markUrgent snapshot address).urgency key =
      if model.workspaceOf? snapshot address = some key then (model.urgency key).map fun _ => true
      else model.urgency key := by
  rw [markUrgent]
  cases model.workspaceOf? snapshot address with
  | none => rfl
  | some marked =>
    dsimp only
    rw [urgency, update, SortedMap.get?_modify, urgency]
    simp only [Option.some.injEq, eq_comm (a := marked)]
    split
    · rw [Option.map_map, Option.map_map]
      rfl
    · rfl

/-- A change makes one workspace urgent or none. -/
theorem urgency_applyWindowChange (bar : Bar) (snapshot : Snapshot) (model : Model)
    (change : WindowChange) (key : Nat) :
    (model.applyWindowChange bar snapshot change).urgency key =
      if model.marks? snapshot change = some key then (model.urgency key).map fun _ => true
      else model.urgency key := by
  cases change with
  | opened address target windowClass title => exact congrFun (urgency_openWindow ..) key
  | closed address => exact congrFun (urgency_withdraw ..) key
  | moved address target => exact congrFun (urgency_moveWindow ..) key
  | retitled address title => exact congrFun (urgency_retitleWindow ..) key
  | urgent address => exact urgency_markUrgent snapshot _ model key
  | focused address =>
    exact congrFun (urgency_shareFocus { model with focused := address.map plainAddress }) key

theorem focused_place (bar : Bar) (key : Nat) (window : Window) (model : Model) :
    (model.place bar key window).focused = model.focused := by
  have withdrawn := focused_withdraw window.address model
  rw [place]
  dsimp only
  split
  · exact withdrawn
  · split <;> exact withdrawn

theorem focused_settle (bar : Bar) (window : Window) (model : Model) :
    (model.settle bar window).focused = model.focused := by
  rw [settle]
  split
  · exact focused_place ..
  · exact focused_withdraw window.address model

/-- The address of the window that has the focus after a change. -/
def focusAfter (focused : Option String) : WindowChange → Option String
  | .focused address => address.map plainAddress
  | _ => focused

theorem focused_applyWindowChange (bar : Bar) (snapshot : Snapshot) (model : Model)
    (change : WindowChange) :
    (model.applyWindowChange bar snapshot change).focused = focusAfter model.focused change := by
  cases change with
  | opened address target windowClass title =>
    rw [applyWindowChange, openWindow]
    split
    · rfl
    · exact focused_settle ..
  | closed address => exact focused_withdraw ..
  | moved address target =>
    rw [applyWindowChange, moveWindow]
    dsimp only
    split
    · exact (focused_settle ..).trans (focused_withdraw ..)
    · exact focused_withdraw ..
  | retitled address title =>
    rw [applyWindowChange, retitleWindow]
    split
    · rfl
    · split <;> rfl
    · rfl
  | urgent address =>
    rw [applyWindowChange, markUrgent]
    split <;> rfl
  | focused address => exact focused_shareFocus _

end Model

end Deskbar
