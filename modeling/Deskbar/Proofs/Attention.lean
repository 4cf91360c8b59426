/-
This file shows that everyone knows which window has the focus. A workspace says so of a window that
it holds, and a window that waits says so of itself. Both are told when the focus moves, and a
window learns it again from whoever gets it, so between the operations nobody is ever wrong about
it, also in the middle of a tick.

What a model says about the focus therefore follows from the rest of it: two models whose workspaces
have the same outline and are equally urgent, and which hold the same windows, are equal when the
same window has the focus.
-/

import Deskbar.Proofs.Holding
import Deskbar.Proofs.Repetition
import Deskbar.Proofs.Urgency

namespace Deskbar

/-! ### Workspaces -/

namespace Workspace

/-- Whether a workspace knows which window has the focus. -/
def KnowsFocus (focused : Option String) (workspace : Workspace) : Prop :=
  workspace.focused = focused.filter workspace.holds

theorem holds_setText (workspace : Workspace) (address text : String) :
    (workspace.setText address text).holds = workspace.holds := by
  refine funext fun other => ?_
  rw [holds, holds, SortedMap.contains, SortedMap.contains, setText, SortedMap.get?_modify]
  split
  · rw [Option.isSome_map]
  · rfl

theorem holds_dismiss_self (workspace : Workspace) (address : String) :
    (workspace.dismiss address).holds address = false := by
  rw [holds, SortedMap.contains, dismiss, SortedMap.get?_erase_self]
  rfl

theorem holds_dismiss_of_ne (workspace : Workspace) {address other : String}
    (different : other ≠ address) :
    (workspace.dismiss address).holds other = workspace.holds other := by
  rw [holds, SortedMap.contains, dismiss, SortedMap.get?_erase_of_ne _ different, holds,
    SortedMap.contains]

theorem holds_takeIn_of_ne (rewriter : Rewriter) (window : Window) (workspace : Workspace)
    {address : String} (different : address ≠ window.address) :
    (workspace.takeIn rewriter window).holds address = workspace.holds address := by
  rw [holds, SortedMap.contains, Model.get?_takeIn_of_ne rewriter window workspace different, holds,
    SortedMap.contains]

namespace KnowsFocus

variable {focused : Option String} {workspace : Workspace}

theorem of_empty (bare : workspace.windows = SortedMap.empty) (nobody : workspace.focused = none) :
    workspace.KnowsFocus focused := by
  have holdsNothing : workspace.holds = fun _ => false := by
    refine funext fun address => ?_
    rw [holds, bare]
    rfl
  rw [KnowsFocus, nobody, holdsNothing]
  cases focused <;> rfl

theorem setText (knows : workspace.KnowsFocus focused) (address text : String) :
    (workspace.setText address text).KnowsFocus focused := by
  rw [KnowsFocus, holds_setText]
  exact knows

theorem dismiss (knows : workspace.KnowsFocus focused) (address : String) :
    (workspace.dismiss address).KnowsFocus focused := by
  show (if workspace.hasFocusOn address then none else workspace.focused) =
    focused.filter (workspace.dismiss address).holds
  rw [hasFocusOn, show workspace.focused = _ from knows]
  cases focused with
  | none => rfl
  | some other =>
    rw [Option.filter_some, Option.filter_some]
    by_cases same : other = address
    · subst same
      rw [holds_dismiss_self]
      cases workspace.holds other <;> simp
    · rw [holds_dismiss_of_ne workspace same]
      cases workspace.holds other <;> simp [same]

/-- A workspace knows which window has the focus once it has taken in one that knows it of
itself. -/
theorem takeIn (knows : workspace.KnowsFocus focused) (rewriter : Rewriter) {window : Window}
    (told : window.active = decide (focused = some window.address)) :
    (workspace.takeIn rewriter window).KnowsFocus focused := by
  cases leftOut : window.isLeftOut rewriter with
  | true => rwa [Model.takeIn_of_leftOut window leftOut]
  | false =>
    have taken : (workspace.takeIn rewriter window).focused =
        if window.active then some window.address else workspace.focused :=
      congrArg Workspace.focused (if_neg (Bool.eq_false_iff.mp leftOut))
    have here : (workspace.takeIn rewriter window).holds window.address = true := by
      rw [holds, SortedMap.contains, Model.windows_takeIn window leftOut,
        SortedMap.get?_insert_self]
      rfl
    rw [KnowsFocus, taken, told, show workspace.focused = _ from knows]
    cases focused with
    | none => rfl
    | some other =>
      by_cases same : other = window.address
      · rw [Option.filter_some, Option.filter_some, same, here, decide_eq_true rfl]
        rfl
      · rw [Option.filter_some, Option.filter_some,
          holds_takeIn_of_ne rewriter window workspace same]
        simp [same]

end KnowsFocus

theorem knowsFocus_focusOn (workspace : Workspace) (address : Option String) :
    (workspace.focusOn address).KnowsFocus address := rfl

end Workspace

namespace Model

/-- Every workspace and every window that waits knows which window has the focus. -/
structure Attentive (model : Model) : Prop where
  workspaces : ∀ {key workspace}, model.workspaces.get? key = some workspace →
    workspace.KnowsFocus model.focused
  orphans : ∀ {address window}, model.orphans.get? address = some window →
    window.active = model.hasFocusOn address

theorem attentive_shareFocus (model : Model) : model.shareFocus.Attentive := by
  constructor
  · intro key workspace present
    rw [workspaces_shareFocus, focusWorkspaces, SortedMap.get?_mapValues] at present
    obtain ⟨origin, -, rfl⟩ := Option.map_eq_some_iff.mp present
    rw [focused_shareFocus]
    exact origin.knowsFocus_focusOn model.focused
  · intro address window waits
    rw [hasFocusOn, focused_shareFocus]
    exact active_shareFocus waits

namespace Attentive

variable {model : Model}

/-! ### Single windows -/

theorem update (attentive : model.Attentive) {key : Nat} {change : Workspace → Workspace}
    (told : ∀ workspace, model.workspaces.get? key = some workspace →
      (change workspace).KnowsFocus model.focused) : (model.update key change).Attentive := by
  refine ⟨fun {other workspace} present => ?_, attentive.orphans⟩
  rw [Model.update, SortedMap.get?_modify] at present
  split at present
  · next same =>
    obtain ⟨origin, originPresent, rfl⟩ := Option.map_eq_some_iff.mp present
    exact told origin (same ▸ originPresent)
  · exact attentive.workspaces present

theorem insert (attentive : model.Attentive) {key : Nat} {workspace : Workspace}
    (bare : workspace.windows = SortedMap.empty) (nobody : workspace.focused = none)
    (lastKey : Nat) :
    { model with
      workspaces := model.workspaces.insert key workspace
      lastKey := lastKey }.Attentive := by
  refine ⟨fun {other found} present => ?_, attentive.orphans⟩
  rw [SortedMap.get?_insert] at present
  split at present
  · rw [← Option.some.inj present]
    exact Workspace.KnowsFocus.of_empty bare nobody
  · exact attentive.workspaces present

/-- The index says nothing about the focus. -/
theorem reindex (attentive : model.Attentive) (owners : SortedMap String Owner) :
    { model with owners := owners }.Attentive :=
  ⟨attentive.workspaces, attentive.orphans⟩

theorem eraseOrphan (attentive : model.Attentive) (address : String) :
    { model with orphans := model.orphans.erase address }.Attentive := by
  refine ⟨attentive.workspaces, fun {other window} waits => ?_⟩
  rw [SortedMap.get?_erase] at waits
  split at waits
  · cases waits
  · exact attentive.orphans waits

theorem modifyOrphan (attentive : model.Attentive) (address : String) {change : Window → Window}
    (kept : ∀ window, (change window).active = window.active) :
    { model with orphans := model.orphans.modify address change }.Attentive := by
  refine ⟨attentive.workspaces, fun {other window} waits => ?_⟩
  rw [SortedMap.get?_modify] at waits
  split at waits
  · obtain ⟨old, oldWaits, rfl⟩ := Option.map_eq_some_iff.mp waits
    rw [kept]
    exact attentive.orphans oldWaits
  · exact attentive.orphans waits

theorem withdraw (attentive : model.Attentive) (address : String) :
    (model.withdraw address).2.Attentive := by
  rw [Model.withdraw]
  split
  · exact attentive
  · have unindexed := attentive.reindex (model.owners.erase address)
    dsimp only
    split
    · exact unindexed
    · exact unindexed.update fun workspace present =>
        (attentive.workspaces present).dismiss address
  · exact (attentive.eraseOrphan address).reindex _

theorem place (attentive : model.Attentive) (bar : Bar) (key : Nat) (window : Window) :
    (model.place bar key window).Attentive := by
  have withdrawn := attentive.withdraw window.address
  rw [Model.place]
  dsimp only
  split
  · exact withdrawn
  · next workspace found =>
    have updated : ((model.withdraw window.address).2.update key fun _ =>
        workspace.takeIn bar.rewriter (window.withFocus
          ((model.withdraw window.address).2.hasFocusOn window.address))).Attentive :=
      withdrawn.update fun _ _ => (withdrawn.workspaces found).takeIn bar.rewriter rfl
    split
    · exact updated.reindex _
    · exact updated

theorem orphan (attentive : model.Attentive) (window : Window) :
    (model.orphan window).Attentive := by
  have withdrawn := attentive.withdraw window.address
  refine ⟨withdrawn.workspaces, fun {address waiting} waits => ?_⟩
  rw [get?_orphans_orphan] at waits
  split at waits
  · next same =>
    rw [same, ← Option.some.inj waits]
    rfl
  · exact withdrawn.orphans waits

theorem settle (attentive : model.Attentive) (bar : Bar) (window : Window) :
    (model.settle bar window).Attentive := by
  rw [Model.settle]
  split
  · exact attentive.place ..
  · exact attentive.orphan window

theorem claimOne (attentive : model.Attentive) (bar : Bar) (key : Nat) (address : String) :
    (model.claimOne bar key address).Attentive := by
  rw [Model.claimOne]
  split
  · exact attentive
  · exact ((attentive.eraseOrphan address).reindex _).place ..

theorem claim (attentive : model.Attentive) (bar : Bar) (key : Nat) :
    (model.claim bar key).Attentive := by
  rw [Model.claim]
  split
  · exact attentive
  · exact List.foldlRecOn _ _ attentive fun _ kept address _ => kept.claimOne bar key address

/-! ### Workspaces -/

theorem gather (attentive : model.Attentive) (bar : Bar) (snapshot : Snapshot) (key : Nat)
    (id : Int) : (model.gather bar snapshot key id).Attentive := by
  refine List.foldlRecOn _ _ attentive fun _ kept report _ => ?_
  rw [gatherOne]
  split
  · exact kept
  · exact kept.place ..

theorem remove (attentive : model.Attentive) (snapshot : Snapshot) (key : Nat) :
    (model.remove snapshot key).Attentive := by
  cases present : model.workspaces.get? key with
  | none => rwa [remove_of_absent snapshot present]
  | some workspace =>
    have left : (model.withoutWindows key workspace).Attentive := by
      rw [withoutWindows]
      split
      · exact attentive.update fun _ _ => Workspace.KnowsFocus.of_empty rfl rfl
      · refine ⟨fun {other found} remains => ?_, attentive.orphans⟩
        rw [SortedMap.get?_erase] at remains
        split at remains
        · cases remains
        · exact attentive.workspaces remains
    rw [remove_eq snapshot present]
    refine List.foldlRecOn _ _ left fun _ kept entry _ => ?_
    rw [abandon]
    split
    · exact (kept.reindex _).orphan _
    · exact kept.reindex _

theorem ensure (attentive : model.Attentive) (bar : Bar) (snapshot : Snapshot)
    (report : ReportedWorkspace) : (model.ensure bar snapshot report).Attentive := by
  rw [Model.ensure]
  split
  · split
    · next workspace _ =>
      have adopted : (model.update workspace.key fun workspace =>
          workspace.adopt report).Attentive :=
        attentive.update fun _ present => (attentive.workspaces present :)
      split
      · exact adopted.claim ..
      · exact (adopted.gather ..).claim ..
    · have created : (model.create bar report).Attentive := attentive.insert rfl rfl _
      exact (created.gather ..).claim ..
  · exact attentive

theorem addDeclared (attentive : model.Attentive) (bar : Bar) (raw : String) :
    (model.addDeclared bar raw).Attentive := by
  rw [Model.addDeclared]
  dsimp only
  split
  · exact attentive.insert rfl rfl _
  · exact attentive

/-- Every step of the work on workspaces leaves everyone in the know. -/
theorem stepwise (bar : Bar) (snapshot : Snapshot) :
    Stepwise bar snapshot fun before after => before.Attentive → after.Attentive where
  refl _ := id
  trans earlier later attentive := later (earlier attentive)
  replace present _ _ windows focused attentive := by
    refine attentive.update fun _ _ => ?_
    have knows := attentive.workspaces present
    rw [Workspace.KnowsFocus] at knows ⊢
    rw [focused, knows]
    congr 1
    refine funext fun address => ?_
    rw [Workspace.holds, Workspace.holds, windows]
  claim _ key attentive := attentive.claim bar key
  remove _ key attentive := attentive.remove snapshot key
  ensure _ report attentive := attentive.ensure bar snapshot report
  declare _ raw attentive := attentive.addDeclared bar raw

/-! ### Announced changes of windows -/

theorem retitleWindow (attentive : model.Attentive) (bar : Bar) (snapshot : Snapshot)
    (address : String) (title : Option String) :
    (model.retitleWindow bar snapshot address title).Attentive := by
  rw [Model.retitleWindow]
  split
  · exact attentive.update fun _ present => (attentive.workspaces present).setText _ _
  · split
    · refine attentive.modifyOrphan address fun window => ?_
      rw [Window.retitle?]
      split <;> rfl
    · exact attentive
  · exact attentive

theorem applyWindowChange (attentive : model.Attentive) (bar : Bar) (snapshot : Snapshot)
    (change : WindowChange) : (model.applyWindowChange bar snapshot change).Attentive := by
  cases change with
  | opened address target windowClass title =>
    rw [Model.applyWindowChange, openWindow]
    split
    · exact attentive
    · exact attentive.settle ..
  | closed address => exact attentive.withdraw _
  | moved address target =>
    rw [Model.applyWindowChange, moveWindow]
    dsimp only
    split
    · exact (attentive.withdraw _).settle ..
    · exact attentive.withdraw _
  | retitled address title => exact attentive.retitleWindow ..
  | urgent address =>
    rw [Model.applyWindowChange, markUrgent]
    split
    · exact attentive.update fun _ present => (attentive.workspaces present :)
    · exact attentive
  | focused address => exact attentive_shareFocus _

theorem applyWindowChanges (attentive : model.Attentive) (bar : Bar) (snapshot : Snapshot)
    (changes : List WindowChange) : (model.applyWindowChanges bar snapshot changes).Attentive :=
  List.foldlRecOn _ _ attentive fun _ kept change _ => kept.applyWindowChange bar snapshot change

end Attentive

/-- At the end of every run everyone knows which window has the focus. -/
theorem attentive_run [Pattern.Engine] (config : BarConfig) (inputs : List Tracker.Input) :
    (Tracker.run config inputs).model.Attentive := by
  refine Tracker.run_induction (motive := fun tracker => tracker.model.Attentive) ?_
    fun tracker kept input _ => ?_
  · exact ⟨fun found => absurd found.symm (Option.some_ne_none _),
      fun found => absurd found.symm (Option.some_ne_none _)⟩
  · cases input with
    | event event => exact kept
    | snapshot snapshot => exact attentive_shareFocus _

/-! ### What the focus follows from -/

theorem eq_of_outline {first second : Workspace} (outline : first.outline = second.outline)
    (urgent : first.flags.urgent = second.flags.urgent) (windows : first.windows = second.windows)
    (focused : first.focused = second.focused) : first = second := by
  obtain ⟨key, id, name, reference, output, flags, count, _, _⟩ := first
  obtain ⟨active, special, persistentRule, persistentConfig, _, visible⟩ := flags
  simp only [Workspace.outline, Workspace.mk.injEq, Workspace.Flags.mk.injEq] at outline
  obtain ⟨rfl, rfl, rfl, rfl, rfl, ⟨rfl, rfl, rfl, rfl, -, rfl⟩, rfl, -⟩ := outline
  simp only at urgent windows focused
  subst urgent windows focused
  rfl

/-- Models in which everyone knows which window has the focus are equal when they agree on the
workspaces, on their urgency, on the windows and on the focus. -/
theorem eq_of_attentive {first second : Model} (attentive : first.Attentive)
    (attentiveToo : second.Attentive) (outline : first.outline = second.outline)
    (urgency : first.urgency = second.urgency)
    (holding : ∀ address, first.holding address = second.holding address)
    (focused : first.focused = second.focused) : first = second := by
  have workspaces : first.workspaces = second.workspaces := by
    refine SortedMap.eq_of_get? fun key => ?_
    cases present : first.workspaces.get? key with
    | none =>
      cases there : second.workspaces.get? key with
      | none => rfl
      | some other =>
        obtain ⟨found, foundPresent, -⟩ := get?_of_outline outline.symm there
        cases present.symm.trans foundPresent
    | some workspace =>
      obtain ⟨other, there, same⟩ := get?_of_outline outline present
      have windows : workspace.windows = other.windows := by
        refine SortedMap.eq_of_get? fun address => ?_
        rw [← textOn?_of_get? present, ← textOn?_of_get? there]
        exact congrFun (congrArg Holding.text (holding address)) key
      have urgent : workspace.flags.urgent = other.flags.urgent := by
        have equally := congrFun urgency key
        rw [urgency_of_get? present, urgency_of_get? there] at equally
        exact Option.some.inj equally
      have focus : workspace.focused = other.focused := by
        have knows := attentive.workspaces present
        have knowsToo := attentiveToo.workspaces there
        rw [Workspace.KnowsFocus] at knows knowsToo
        rw [knows, knowsToo, focused]
        congr 1
        refine funext fun address => ?_
        rw [Workspace.holds, Workspace.holds, windows]
      rw [there, eq_of_outline same.symm urgent windows focus]
  have owners : first.owners = second.owners :=
    SortedMap.eq_of_get? fun address => congrArg Holding.owner (holding address)
  have orphans : first.orphans = second.orphans :=
    SortedMap.eq_of_get? fun address => congrArg Holding.orphan (holding address)
  have lastKey := lastKey_of_outline outline
  obtain ⟨_, _, _, _, _⟩ := first
  subst workspaces owners orphans focused lastKey
  rfl

end Model

end Deskbar
