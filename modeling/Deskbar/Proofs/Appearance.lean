/-
This file follows what windows look like. A window that waits has a class and a title, or a text; a
window that is shown has a text. What a window may look like is said by its address, and every
operation of the model keeps to it, in every run and for addresses of every kind: windows go from
one place to another with what they look like, and a class and a title become a text when a
workspace takes the window in.

Something new comes in at three points only: with a report, with a window that is opened, and with a
title. What these bring is therefore all that has to be looked at.
-/

import Deskbar.Proofs.Locality

namespace Deskbar

/-- What windows may look like by their addresses is not left when a window loses the lead of its
address, nor when its text is made out because a workspace takes it in. -/
structure Rewriter.Respects (rewriter : Rewriter) (allows : String → Window.Appearance → Prop) :
    Prop where
  plain : ∀ {address appearance}, allows address appearance →
    allows (plainAddress address) appearance
  resolved : ∀ {window : Window}, window.isLeftOut rewriter = false →
    allows window.address window.appearance →
      allows window.address (.resolved (window.text rewriter))

/-- The windows of a snapshot may look as it reports them. -/
def Snapshot.Allowed (snapshot : Snapshot) (allows : String → Window.Appearance → Prop) : Prop :=
  ∀ report ∈ snapshot.windows,
    allows (plainAddress report.address) (.identity report.windowClass report.title)

namespace Model

/-- Every window that is shown or waits looks as its address allows. -/
structure Looks (allows : String → Window.Appearance → Prop) (model : Model) : Prop where
  shown : ∀ {key address text}, model.textOn? key address = some text →
    allows address (.resolved text)
  waiting : ∀ {address window}, model.orphans.get? address = some window →
    window.address = address ∧ allows address window.appearance

/-- What a change brings is allowed, in the model that it finds. A title is brought to the class
that the snapshot reports when the window is on a workspace, and else to the class that it waits
with. -/
def Brings (allows : String → Window.Appearance → Prop) (rewriter : Rewriter) (snapshot : Snapshot)
    (model : Model) : WindowChange → Prop
  | .opened address _ windowClass title =>
    allows (plainAddress address) (.identity windowClass title)
  | .retitled address title =>
    (∀ key report, model.owners.get? (plainAddress address) = some (.workspace key) →
      snapshot.window? (plainAddress address) = some report →
        allows (plainAddress address)
          (.resolved (rewriter.windowText report.windowClass (title.getD report.title)))) ∧
      ∀ windowClass former replaced,
        allows (plainAddress address) (.identity windowClass former) →
        title.or ((snapshot.window? (plainAddress address)).map ReportedWindow.title) =
          some replaced →
        allows (plainAddress address) (.identity windowClass replaced)
  | _ => True

/-! ### Texts -/

section Texts

variable {model : Model} {key : Nat} {address text : String}

/-- A text is brought to a workspace by a change of that workspace alone. -/
theorem textOn?_of_update {changed : Nat} {change : Workspace → Workspace}
    (found : (model.update changed change).textOn? key address = some text) :
    model.textOn? key address = some text ∨
      key = changed ∧ ∃ workspace, model.workspaces.get? changed = some workspace ∧
        (change workspace).windows.get? address = some text := by
  by_cases same : key = changed
  · subst same
    obtain ⟨workspace, present, here⟩ := Option.bind_eq_some_iff.mp found
    rw [update, SortedMap.get?_modify_self] at present
    obtain ⟨origin, originPresent, rfl⟩ := Option.map_eq_some_iff.mp present
    exact Or.inr ⟨rfl, origin, originPresent, here⟩
  · rw [textOn?_update_of_ne model change same] at found
    exact Or.inl found

/-- Taking a window from its owner brings no text. -/
theorem textOn?_of_withdraw {withdrawn : String}
    (found : (model.withdraw withdrawn).2.textOn? key address = some text) :
    model.textOn? key address = some text := by
  by_cases same : address = withdrawn
  · rw [withdraw] at found
    split at found
    · exact found
    · dsimp only at found
      split at found
      · exact found
      · rcases textOn?_of_update found with old | ⟨-, workspace, -, here⟩
        · exact old
        · rw [same, Workspace.dismiss, SortedMap.get?_erase_self] at here
          cases here
    · exact found
  · have kept := congrArg Holding.text (holding_withdraw_of_ne model same)
    exact (congrFun kept key).symm.trans found

theorem text_of_takeIn {rewriter : Rewriter} {window : Window} {workspace : Workspace}
    (found : (workspace.takeIn rewriter window).windows.get? window.address = some text) :
    workspace.windows.get? window.address = some text ∨
      window.isLeftOut rewriter = false ∧ text = window.text rewriter := by
  cases leftOut : window.isLeftOut rewriter with
  | true =>
    rw [takeIn_of_leftOut window leftOut] at found
    exact Or.inl found
  | false =>
    rw [windows_takeIn window leftOut, SortedMap.get?_insert_self] at found
    exact Or.inr ⟨rfl, (Option.some.inj found).symm⟩

/-- Giving a window to a workspace brings no text but the one of that window. -/
theorem textOn?_of_place {bar : Bar} {target : Nat} {window : Window}
    (found : (model.place bar target window).textOn? key address = some text) :
    model.textOn? key address = some text ∨
      address = window.address ∧ window.isLeftOut bar.rewriter = false ∧
        text = window.text bar.rewriter := by
  by_cases same : address = window.address
  · subst same
    rw [place] at found
    dsimp only at found
    split at found
    · exact Or.inl (textOn?_of_withdraw found)
    · next workspace present =>
      have updated : ((model.withdraw window.address).2.update target fun _ =>
          workspace.takeIn bar.rewriter (window.withFocus
            ((model.withdraw window.address).2.hasFocusOn window.address))).textOn? key
              window.address = some text := by
        split at found <;> exact found
      rcases textOn?_of_update updated with old | ⟨rfl, -, -, here⟩
      · exact Or.inl (textOn?_of_withdraw old)
      · rcases text_of_takeIn here with old | taken
        · exact Or.inl (textOn?_of_withdraw ((textOn?_of_get? present _).trans old))
        · exact Or.inr ⟨rfl, taken⟩
  · refine Or.inl ?_
    have kept := holding_place_of_ne model bar target window same
    exact (congrFun (congrArg Holding.text kept) key).symm.trans found

end Texts

namespace Looks

variable {allows : String → Window.Appearance → Prop} {model : Model}

/-! ### Single windows -/

theorem of_fewer {after : Model} (looks : model.Looks allows)
    (texts : ∀ {key address text}, after.textOn? key address = some text →
      model.textOn? key address = some text)
    (fewer : Sheds model.orphans after.orphans) : after.Looks allows :=
  ⟨fun found => looks.shown (texts found), fun found => looks.waiting (fewer.kept found)⟩

theorem mono {more : String → Window.Appearance → Prop} (looks : model.Looks allows)
    (implied : ∀ {address appearance}, allows address appearance → more address appearance) :
    model.Looks more :=
  ⟨fun found => implied (looks.shown found), fun found =>
    ⟨(looks.waiting found).1, implied (looks.waiting found).2⟩⟩

theorem withdraw (looks : model.Looks allows) (address : String) :
    (model.withdraw address).2.Looks allows :=
  looks.of_fewer textOn?_of_withdraw (Sheds.withdraw address model)

/-- Workspaces may change as they like if they keep their windows. -/
theorem update (looks : model.Looks allows) {key : Nat} {change : Workspace → Workspace}
    (kept : ∀ workspace, (change workspace).windows = workspace.windows) :
    (model.update key change).Looks allows := by
  refine looks.of_fewer (fun {other address text} found => ?_) (Sheds.refl _)
  have same : (model.update key change).holding address = model.holding address :=
    holding_update fun workspace _ => congrArg (SortedMap.get? · address) (kept workspace)
  exact (congrFun (congrArg Holding.text same) other).symm.trans found

theorem mapValues (looks : model.Looks allows) {change : Workspace → Workspace}
    (kept : ∀ workspace, (change workspace).windows = workspace.windows) :
    { model with workspaces := model.workspaces.mapValues change }.Looks allows := by
  refine looks.of_fewer (fun {key address text} found => ?_) (Sheds.refl _)
  exact (congrFun (congrArg Holding.text (holding_mapValues kept model address)) key).symm.trans
    found

/-- A window that waits may change if it keeps its address and what it looks like. -/
theorem modify (looks : model.Looks allows) (address : String) {change : Window → Window}
    (kept : ∀ window, (change window).address = window.address ∧
      (allows address window.appearance → allows address (change window).appearance)) :
    { model with orphans := model.orphans.modify address change }.Looks allows := by
  refine ⟨looks.shown, fun {other window} found => ?_⟩
  rw [SortedMap.get?_modify] at found
  split at found
  · next same =>
    obtain ⟨old, oldFound, rfl⟩ := Option.map_eq_some_iff.mp found
    obtain ⟨named, allowed⟩ := looks.waiting oldFound
    subst same
    exact ⟨(kept old).1.trans named, (kept old).2 allowed⟩
  · exact looks.waiting found

theorem orphan (looks : model.Looks allows) {window : Window}
    (allowed : allows window.address window.appearance) : (model.orphan window).Looks allows := by
  have withdrawn := looks.withdraw window.address
  refine ⟨withdrawn.shown, fun {address waiting} found => ?_⟩
  rw [get?_orphans_orphan] at found
  split at found
  · next same =>
    rw [← Option.some.inj found, same]
    exact ⟨rfl, allowed⟩
  · exact withdrawn.waiting found

theorem shareFocus (looks : model.Looks allows) : model.shareFocus.Looks allows := by
  have told : model.focusWorkspaces.Looks allows := looks.mapValues fun _ => rfl
  exact List.foldlRecOn _ _ told fun _ kept address _ => kept.modify address fun _ => ⟨rfl, id⟩

theorem observe (looks : model.Looks allows) (bar : Bar) (snapshot : Snapshot) :
    (model.observe bar snapshot).Looks allows := by
  have observed := looks.mapValues (windows_observe bar snapshot)
  exact shareFocus ⟨observed.shown, observed.waiting⟩

theorem growOrphans (looks : model.Looks allows) (bar : Bar) (addresses : List String) :
    (model.growOrphans bar addresses).Looks allows := by
  refine List.foldlRecOn _ _ looks fun next kept address _ => ?_
  rw [growOrphan]
  split
  · exact kept
  · split
    · exact kept.of_fewer id (Sheds.erase next.orphans address)
    · exact kept.modify address fun _ => ⟨rfl, id⟩

theorem insert (looks : model.Looks allows) {workspace : Workspace}
    (bare : workspace.windows = SortedMap.empty) (key lastKey : Nat) :
    { model with
      workspaces := model.workspaces.insert key workspace
      lastKey := lastKey }.Looks allows := by
  refine ⟨fun {other address text} found => ?_, looks.waiting⟩
  obtain ⟨holder, present, here⟩ := Option.bind_eq_some_iff.mp found
  rw [SortedMap.get?_insert] at present
  split at present
  · rw [← Option.some.inj present, bare] at here
    cases here
  · exact looks.shown ((textOn?_of_get? present address).trans here)

theorem retitleWindow (looks : model.Looks allows) {bar : Bar} {snapshot : Snapshot}
    {address : String} {title : Option String}
    (brings : Brings allows bar.rewriter snapshot model (.retitled address title)) :
    (model.retitleWindow bar snapshot (plainAddress address) title).Looks allows := by
  obtain ⟨replaced, renamed⟩ := brings
  rw [Model.retitleWindow]
  split
  · next key report owned listed =>
    refine ⟨fun {other shown text} found => ?_, looks.waiting⟩
    rcases textOn?_of_update found with old | ⟨rfl, workspace, present, here⟩
    · exact looks.shown old
    · rw [Workspace.setText, SortedMap.get?_modify] at here
      split at here
      · next same =>
        obtain ⟨former, -, rfl⟩ := Option.map_eq_some_iff.mp here
        rw [same]
        exact replaced other report owned listed
      · exact looks.shown ((textOn?_of_get? present shown).trans here)
  · split
    · next replacement known =>
      refine looks.modify _ fun window => ?_
      rw [Window.retitle?]
      split
      · next windowClass former appearance =>
        refine ⟨rfl, fun allowed => ?_⟩
        rw [appearance] at allowed
        exact renamed windowClass former replacement allowed known
      · exact ⟨rfl, id⟩
    · exact looks
  · exact looks

section Respects

variable {bar : Bar} (respects : bar.rewriter.Respects allows)

include respects

theorem place (looks : model.Looks allows) (key : Nat) {window : Window}
    (allowed : allows window.address window.appearance) :
    (model.place bar key window).Looks allows := by
  refine ⟨fun {other address text} found => ?_, fun found =>
    looks.waiting ((Sheds.place bar key window model).kept found)⟩
  rcases textOn?_of_place found with old | ⟨rfl, taken, rfl⟩
  · exact looks.shown old
  · exact respects.resolved taken allowed

/-- A window that is taken from its owner looks as its address allows. -/
theorem of_withdrawn (looks : model.Looks allows) {address : String} {window : Window}
    (withdrawn : (model.withdraw address).1 = some window) :
    allows window.address window.appearance := by
  rw [Model.withdraw] at withdrawn
  split at withdrawn
  · cases withdrawn
  · dsimp only at withdrawn
    split at withdrawn
    · cases withdrawn
    · next workspace present =>
      obtain ⟨text, here, rfl⟩ := Option.map_eq_some_iff.mp withdrawn
      exact respects.plain (looks.shown ((textOn?_of_get? present address).trans here))
  · obtain ⟨rfl, allowed⟩ := looks.waiting withdrawn
    exact allowed

theorem settle (looks : model.Looks allows) {window : Window}
    (allowed : allows window.address window.appearance) :
    (model.settle bar window).Looks allows := by
  rw [Model.settle]
  split
  · exact looks.place respects _ allowed
  · exact looks.orphan allowed

theorem claimOne (looks : model.Looks allows) (key : Nat) (address : String) :
    (model.claimOne bar key address).Looks allows := by
  rw [Model.claimOne]
  split
  · exact looks
  · next window found =>
    obtain ⟨rfl, allowed⟩ := looks.waiting found
    have forgotten : { model with
        orphans := model.orphans.erase window.address
        owners := model.owners.erase window.address }.Looks allows :=
      looks.of_fewer id (Sheds.erase model.orphans window.address)
    exact forgotten.place respects key allowed

theorem claim (looks : model.Looks allows) (key : Nat) : (model.claim bar key).Looks allows := by
  rw [Model.claim]
  split
  · exact looks
  · exact List.foldlRecOn _ _ looks fun _ kept address _ => kept.claimOne respects key address

theorem gather (looks : model.Looks allows) {snapshot : Snapshot}
    (reported : snapshot.Allowed allows) (key : Nat) (id : Int) :
    (model.gather bar snapshot key id).Looks allows := by
  refine List.foldlRecOn _ _ looks fun next kept report member => ?_
  rw [gatherOne]
  split
  · exact kept
  · exact kept.place respects key (reported report (List.mem_of_mem_filter member))

/-! ### Workspaces -/

theorem remove (looks : model.Looks allows) (snapshot : Snapshot) (key : Nat) :
    (model.remove snapshot key).Looks allows := by
  cases present : model.workspaces.get? key with
  | none => rwa [remove_of_absent snapshot present]
  | some workspace =>
    have left : (model.withoutWindows key workspace).Looks allows := by
      refine looks.of_fewer (fun {other address text} found => ?_) ?_
      · rw [textOn?_withoutWindows present] at found
        split at found
        · cases found
        · exact found
      · rw [withoutWindows]
        split <;> exact Sheds.refl model.orphans
    rw [remove_eq snapshot present]
    refine List.foldlRecOn _ _ left fun next kept entry member => ?_
    have here := SortedMap.get?_eq_some_iff.mpr member
    have allowed := looks.shown ((textOn?_of_get? present entry.1).trans here)
    have unindexed : { next with owners := next.owners.erase entry.1 }.Looks allows :=
      ⟨kept.shown, kept.waiting⟩
    rw [abandon]
    split
    · exact unindexed.orphan (respects.plain allowed)
    · exact unindexed

theorem ensure (looks : model.Looks allows) {snapshot : Snapshot}
    (reported : snapshot.Allowed allows) (report : ReportedWorkspace) :
    (model.ensure bar snapshot report).Looks allows := by
  rw [Model.ensure]
  split
  · split
    · next workspace _ =>
      have adopted : (model.update workspace.key fun workspace =>
          workspace.adopt report).Looks allows := looks.update fun _ => rfl
      split
      · exact adopted.claim respects _
      · exact (adopted.gather respects reported _ _).claim respects _
    · have created : (model.create bar report).Looks allows := looks.insert rfl _ _
      exact (created.gather respects reported _ _).claim respects _
  · exact looks

/-- The work on workspaces changes what windows look like only where a workspace takes one in. -/
theorem stepwise {snapshot : Snapshot} (reported : snapshot.Allowed allows) :
    Stepwise bar snapshot fun before after => before.Looks allows → after.Looks allows where
  refl _ := id
  trans earlier later looks := later (earlier looks)
  replace present _ _ windows _ looks := by
    refine looks.of_fewer (fun {other address text} found => ?_) (Sheds.refl _)
    rcases textOn?_of_update found with old | ⟨rfl, workspace, -, here⟩
    · exact old
    · rw [textOn?_of_get? present]
      rwa [windows] at here
  claim _ key looks := looks.claim respects key
  remove _ key looks := looks.remove respects snapshot key
  ensure _ report looks := looks.ensure respects reported report
  declare model raw looks := by
    rw [addDeclared]
    dsimp only
    split
    · exact looks.insert rfl _ _
    · exact looks

/-! ### Announced changes of windows -/

theorem moveWindow (looks : model.Looks allows) {snapshot : Snapshot}
    (reported : snapshot.Allowed allows) (address target : String) :
    (model.moveWindow bar snapshot address target).Looks allows := by
  have withdrawn := looks.withdraw address
  rw [Model.moveWindow]
  dsimp only
  split
  · next window found =>
    refine withdrawn.settle respects ?_
    rcases Option.or_eq_some_iff.mp found with taken | ⟨-, listed⟩
    · obtain ⟨origin, fromOwner, rfl⟩ := Option.map_eq_some_iff.mp taken
      have allowed := looks.of_withdrawn respects fromOwner
      exact allowed
    · obtain ⟨report, here, rfl⟩ := Option.map_eq_some_iff.mp listed
      have passed := List.find?_some here
      have itsOwn : plainAddress report.address = address := of_decide_eq_true passed
      have allowed := reported report (List.mem_of_find?_eq_some here)
      rw [itsOwn] at allowed
      exact respects.plain allowed
  · exact withdrawn

/-- A change leaves windows as they may look if what it brings is allowed. -/
theorem applyWindowChange (looks : model.Looks allows) {snapshot : Snapshot}
    (reported : snapshot.Allowed allows) {change : WindowChange}
    (brings : Brings allows bar.rewriter snapshot model change) :
    (model.applyWindowChange bar snapshot change).Looks allows := by
  cases change with
  | opened address target windowClass title =>
    rw [Model.applyWindowChange, openWindow]
    split
    · exact looks
    · exact looks.settle respects brings
  | closed address => exact looks.withdraw _
  | moved address target => exact looks.moveWindow respects reported _ target
  | retitled address title => exact looks.retitleWindow brings
  | urgent address =>
    rw [Model.applyWindowChange, markUrgent]
    split
    · exact looks.update fun _ => rfl
    · exact looks
  | focused address => exact shareFocus ⟨looks.shown, looks.waiting⟩

end Respects

/-! ### Ticks -/

/-- Nothing has been shown yet by a model without workspaces and windows. -/
theorem cleared (model : Model) :
    { model with
      workspaces := SortedMap.empty
      owners := SortedMap.empty
      orphans := SortedMap.empty }.Looks allows :=
  ⟨fun found => (by cases found), fun found => (by cases found)⟩

theorem startOver {bar : Bar} (respects : bar.rewriter.Respects allows) {snapshot : Snapshot}
    (reported : snapshot.Allowed allows) (model : Model) :
    (model.startOver bar snapshot).Looks allows :=
  (stepwise respects reported).addAllDeclared _
    ((stepwise respects reported).align [] _ (cleared model))

end Looks

end Model

namespace Tracker

variable {allows : String → Window.Appearance → Prop} {tracker : Tracker} {snapshot : Snapshot}

/-- Windows look as they may in the middle of a tick that carries on, if every change that has been
carried out has brought what is allowed. -/
theorem looks_midway (looks : tracker.model.Looks allows)
    (respects : tracker.bar.rewriter.Respects allows) (reported : snapshot.Allowed allows)
    {done : List WindowChange}
    (brings : ∀ earlier change later, done = earlier ++ change :: later →
      (tracker.midway snapshot earlier).Brings allows tracker.bar.rewriter snapshot change) :
    (tracker.midway snapshot done).Looks allows := by
  induction done using List.reverseRecOn with
  | nil =>
    exact (Model.Looks.stepwise respects reported).beforeWindowChanges tracker.backlog.workspaces
      tracker.model looks
  | append_singleton before last inductionHypothesis =>
    rw [midway_append]
    refine (inductionHypothesis fun earlier change later split => ?_).applyWindowChange respects
      reported (brings before last [] rfl)
    exact brings earlier change (later ++ [last]) (by rw [split, List.append_assoc]; rfl)

/-- Windows look as they may after every tick, if every change that a tick carries out brings what
is allowed. A tick that starts over carries out none. -/
theorem looks_nextModel (looks : tracker.model.Looks allows)
    (respects : tracker.bar.rewriter.Respects allows) (reported : snapshot.Allowed allows)
    (brings : tracker.startsOver = false →
      ∀ earlier change later, tracker.backlog.windows = earlier ++ change :: later →
        (tracker.midway snapshot earlier).Brings allows tracker.bar.rewriter snapshot change) :
    (tracker.nextModel snapshot).Looks allows := by
  cases startsOver : tracker.startsOver with
  | true =>
    rw [nextModel_of_startsOver startsOver]
    exact (Model.Looks.startOver respects reported tracker.model).observe tracker.bar snapshot
  | false =>
    rw [nextModel_of_not_startsOver startsOver]
    exact ((looks_midway looks respects reported (brings startsOver)).growOrphans tracker.bar
      tracker.model.orphans.keys).observe tracker.bar snapshot

/-- Windows look as they may at the end of a run if its snapshots report nothing else, and if
neither the changes that wait when it begins nor those in it bring anything else, whatever model
they find. -/
theorem looks_foldl_accept {inputs : List Input} (looks : tracker.model.Looks allows)
    (respects : tracker.bar.rewriter.Respects allows) (harmless : WindowChange → Prop)
    (brings : ∀ {change}, harmless change → ∀ snapshot (model : Model),
      model.Brings allows tracker.bar.rewriter snapshot change)
    (waiting : ∀ change ∈ tracker.backlog.windows, harmless change)
    (announced : ∀ change, .event (.window change) ∈ inputs → harmless change)
    (reported : ∀ snapshot, .snapshot snapshot ∈ inputs → snapshot.Allowed allows) :
    (inputs.foldl accept tracker).model.Looks allows := by
  induction inputs generalizing tracker with
  | nil => exact looks
  | cons input rest inductionHypothesis =>
    have later := fun change member => announced change (List.mem_cons_of_mem _ member)
    have reportedLater := fun snapshot member => reported snapshot (List.mem_cons_of_mem _ member)
    rw [List.foldl_cons]
    cases input with
    | event event =>
      refine inductionHypothesis looks respects brings (fun change member => ?_) later reportedLater
      rcases Backlog.mem_windows_push member with old | rfl
      · exact waiting change old
      · exact announced change List.mem_cons_self
    | snapshot snapshot =>
      refine inductionHypothesis ?_ respects brings
        (fun change member => absurd member List.not_mem_nil) later reportedLater
      refine looks_nextModel looks respects (reported snapshot List.mem_cons_self)
        fun _ earlier change later split => brings (waiting change ?_) snapshot _
      exact split ▸ List.mem_append_right _ List.mem_cons_self

end Tracker

end Deskbar
