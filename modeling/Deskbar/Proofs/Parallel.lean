/-
This file shows that it does not matter in how many ticks changes of windows are carried out against
one snapshot. Once a tick has settled the workspaces, the next one finds nothing to do for them and
comes to the changes of windows at once. What it does at its end, when it makes out the flags and
lets windows that wait grow older, is nothing that a change of a window reads, except for the age
that a window keeps and the focus that it is told about.

So two models go abreast that differ in nothing but these: every change leads them to models that
differ in nothing but these again, and an observation of both makes out the same.
-/

import Deskbar.Proofs.Locality
import Deskbar.Proofs.Stranded

namespace Deskbar

/-! ### Places without age and focus -/

/-- A window without what ticks make out about it: how long it has waited and whether it has the
focus. -/
def Window.bare (window : Window) : Window := { window with active := false, age := 0 }

namespace Place

/-- The place of a window without what ticks make out about it. -/
def bare : Place → Place
  | .waiting window => .waiting window.bare
  | place => place

theorem bare_told (place : Place) (active : Bool) : (place.told active).bare = place.bare := by
  cases place <;> rfl

theorem isSome_orphan_told (place : Place) (active : Bool) :
    (place.told active).holding.orphan.isSome = place.holding.orphan.isSome := by
  cases place <;> rfl

/-- Age is all that a window gains in a tick in which it is not forgotten. -/
theorem bare_older {bar : Bar} {place : Place}
    (kept : place.holding.orphan.isSome = true →
      (place.older bar).holding.orphan.isSome = true) : (place.older bar).bare = place.bare := by
  cases place with
  | nowhere => rfl
  | shown key text => rfl
  | waiting window =>
    have waits := kept rfl
    rw [older, Bar.grown?] at waits ⊢
    split at waits
    · cases waits
    · next young => rw [if_neg young]; rfl

theorem bare_placeOn (rewriter : Rewriter) (key : Nat) (window : Window) :
    (window.placeOn rewriter key).bare = window.bare.placeOn rewriter key := by
  show bare (if window.isLeftOut rewriter then _ else _) =
    if window.isLeftOut rewriter then _ else _
  split <;> rfl

theorem repeats_bare (place : Place) (window : Window) (meant? : Option Nat) :
    place.bare.repeats window meant? = place.repeats window meant? := by
  cases place <;> rfl

theorem sent?_bare (place : Place) (address target : String) :
    place.bare.sent? address target = (place.sent? address target).map Window.bare := by
  cases place <;> rfl

theorem bare_retitled (rewriter : Rewriter) (report? : Option ReportedWindow)
    (title : Option String) (place : Place) :
    (place.retitled rewriter report? title).bare = place.bare.retitled rewriter report? title := by
  cases place with
  | nowhere => rfl
  | shown key text => rfl
  | waiting window =>
    simp only [retitled, bare]
    cases title.or (report?.map ReportedWindow.title) with
    | none => rfl
    | some replacement =>
      have same : window.bare.appearance = window.appearance := rfl
      simp only [Option.bind_some, Window.retitle?, same]
      split <;> rfl

theorem owner_bare (place : Place) : place.bare.holding.owner = place.holding.owner := by
  cases place <;> rfl

theorem text_bare (place : Place) : place.bare.holding.text = place.holding.text := by
  cases place <;> rfl

end Place

/-! ### Places that differ in age -/

/-- Where a window is at the end of two runs is the same up to the time that it has waited, or one
of the runs has forgotten it when it had waited for too long. -/
inductive Place.Tallies (bar : Bar) : Place → Place → Prop where
  | same (place : Place) : Tallies bar place place
  | aged (window : Window) (age : UInt32) :
    Tallies bar (.waiting window) (.waiting { window with age := age })
  | forgotten {window overdue : Window} (alike : overdue.bare = window.bare)
    (outgrown : bar.outgrows overdue = true) : Tallies bar .nowhere (.waiting window)
  | forgottenToo {window overdue : Window} (alike : overdue.bare = window.bare)
    (outgrown : bar.outgrows overdue = true) : Tallies bar (.waiting window) .nowhere

theorem Window.eq_of_bare {first second : Window} (alike : second.bare = first.bare)
    (active : second.active = first.active) : second = { first with age := second.age } := by
  obtain ⟨address, workspace, _, age, appearance⟩ := first
  obtain ⟨addressToo, workspaceToo, _, ageToo, appearanceToo⟩ := second
  obtain ⟨rfl, rfl, -, -, rfl⟩ := Window.mk.inj alike
  obtain rfl := active
  rfl

theorem Place.older_waiting (bar : Bar) (window : Window) (aging : Prop) [Decidable aging] :
    (if aging then (Place.waiting window).older bar else .waiting window) = .nowhere ∧
        bar.outgrows window = true ∨
      ∃ after : Window,
        (if aging then (Place.waiting window).older bar else .waiting window) = .waiting after ∧
          after.bare = window.bare := by
  split
  · rw [Place.older, Bar.grown?]
    split
    · next outgrown => exact Or.inl ⟨rfl, outgrown⟩
    · exact Or.inr ⟨window.grow, rfl, rfl⟩
  · exact Or.inr ⟨window, rfl, rfl⟩

/-- Places that were the same but for age and focus tally once windows have grown older and know
whether they have the focus. -/
theorem Place.tallies_of_bare (bar : Bar) {place placeToo : Place}
    (alike : placeToo.bare = place.bare) (aging agingToo : Prop) [Decidable aging]
    [Decidable agingToo] (active : Bool) :
    ((if aging then place.older bar else place).told active).Tallies bar
      ((if agingToo then placeToo.older bar else placeToo).told active) := by
  cases place with
  | nowhere =>
    cases placeToo with
    | nowhere => simp only [older, ite_self, Tallies.same]
    | waiting window => cases alike
    | shown key text => cases alike
  | shown key text =>
    cases placeToo with
    | nowhere => cases alike
    | waiting window => cases alike
    | shown keyToo textToo =>
      obtain ⟨rfl, rfl⟩ := Place.shown.inj alike
      simp only [older, ite_self, Tallies.same]
  | waiting window =>
    cases placeToo with
    | nowhere => cases alike
    | shown key text => cases alike
    | waiting windowToo =>
      have same : windowToo.bare = window.bare := Place.waiting.inj alike
      rcases older_waiting bar window aging with ⟨gone, outgrown⟩ | ⟨after, waits, bare⟩
      · rcases older_waiting bar windowToo agingToo with
          ⟨goneToo, -⟩ | ⟨afterToo, waitsToo, bareToo⟩
        · rw [gone, goneToo]
          exact .same _
        · rw [gone, waitsToo]
          exact .forgotten (same.symm.trans bareToo.symm) outgrown
      · rcases older_waiting bar windowToo agingToo with
          ⟨goneToo, outgrown⟩ | ⟨afterToo, waitsToo, bareToo⟩
        · rw [waits, goneToo]
          exact .forgottenToo (same.trans bare.symm) outgrown
        · rw [waits, waitsToo]
          have told : (afterToo.withFocus active).bare = (after.withFocus active).bare :=
            bareToo.trans (same.trans bare.symm)
          show Tallies bar (.waiting _) (.waiting (afterToo.withFocus active))
          rw [Window.eq_of_bare told rfl]
          exact .aged _ _

namespace Model

theorem movedWindow?_bare (snapshot : Snapshot) (address target : String) (place : Place) :
    movedWindow? snapshot address target place.bare =
      (movedWindow? snapshot address target place).map Window.bare := by
  rw [movedWindow?, movedWindow?, Option.map_or, Place.sent?_bare, Option.map_map]
  rfl

section Outlines

variable {first second : Model}

/-- Age and focus have no part in where a window goes. -/
theorem bare_destination (identified : first.Identified) (same : second.outline = first.outline)
    (bar : Bar) (window : Window) :
    (second.destination bar window).bare = (first.destination bar window.bare).bare := by
  have meant := meant?_of_outline identified same window.workspace
  have refers : window.bare.workspace = window.workspace := rfl
  rw [destination, destination, meant, refers]
  cases first.meant? window.workspace with
  | none => rfl
  | some key =>
    dsimp only
    rw [Place.bare_placeOn, Place.bare_placeOn]
    rfl

theorem bare_leads (identified : first.Identified) (same : second.outline = first.outline)
    (bar : Bar) (snapshot : Snapshot) (address : String) (place : Place) (change : WindowChange) :
    (second.leads bar snapshot address place change).bare =
      (first.leads bar snapshot address place.bare change).bare := by
  rw [leads, leads]
  split
  · cases change with
    | opened other target windowClass title =>
      rw [takes, takes]
      rw [Place.repeats_bare, meant?_of_outline identified same]
      split
      · cases place <;> rfl
      · exact bare_destination identified same bar _
    | closed other => rfl
    | moved other target =>
      rw [takes, takes, movedWindow?_bare]
      cases movedWindow? snapshot (plainAddress other) target place with
      | none => rfl
      | some window => exact bare_destination identified same bar window
    | retitled other title =>
      rw [takes, takes, Place.bare_retitled, Place.bare_retitled]
      cases place <;> rfl
    | urgent other => cases place <;> rfl
    | focused other => cases place <;> rfl
  · cases change with
    | focused focused =>
      rw [leaves, leaves, Place.bare_told, Place.bare_told]
      cases place <;> rfl
    | _ => cases place <;> rfl

end Outlines

/-! ### Models that go abreast -/

/-- Two models differ in nothing but what an observation against a snapshot makes out, and in how
long windows have waited. -/
structure Parallel (snapshot : Snapshot) (first second : Model) : Prop where
  outline : second.outline = first.outline
  focused : snapshot.focusedAddress?.or second.focused = snapshot.focusedAddress?.or first.focused
  urgency : ∀ key workspace, first.workspaces.get? key = some workspace →
    snapshot.showsActive workspace = false → second.urgency key = first.urgency key
  placed : ∀ {address place placeToo}, first.Locates address place →
    second.Locates address placeToo → placeToo.bare = place.bare

theorem showsActive_of_outline (snapshot : Snapshot) {first second : Workspace}
    (same : first.outline = second.outline) :
    snapshot.showsActive first = snapshot.showsActive second := by
  rw [Snapshot.showsActive, Snapshot.showsActive, Workspace.id_of_outline same]

section Parallel

variable {first second : Model} {snapshot : Snapshot}

/-- Models that go abreast go abreast when a change of a window has been carried out in both. -/
theorem Parallel.applyWindowChange (parallel : Parallel snapshot first second)
    (sound : first.Sound) (soundToo : second.Sound) (bar : Bar) {change : WindowChange}
    (addressed : change.IsAddressed) :
    Parallel snapshot (first.applyWindowChange bar snapshot change)
      (second.applyWindowChange bar snapshot change) := by
  have outlined := outline_applyWindowChange bar snapshot first change
  constructor
  · rw [outline_applyWindowChange, outlined, parallel.outline]
  · rw [focused_applyWindowChange, focused_applyWindowChange]
    cases change with
    | focused address => rfl
    | _ => exact parallel.focused
  · intro key workspace present inactive
    obtain ⟨origin, originPresent, same⟩ := get?_of_outline outlined present
    rw [← showsActive_of_outline snapshot same] at inactive
    have marks : second.marks? snapshot change = first.marks? snapshot change := by
      refine marks?_of_outline sound.identified parallel.outline snapshot ?_
      rintro address rfl
      obtain ⟨place, located, -⟩ := sound.owned.located (plainAddress address)
      obtain ⟨placeToo, locatedToo, -⟩ := soundToo.owned.located (plainAddress address)
      rw [located.owner, locatedToo.owner, ← Place.owner_bare place, ← Place.owner_bare placeToo,
        parallel.placed located locatedToo]
    rw [urgency_applyWindowChange, urgency_applyWindowChange, marks,
      parallel.urgency key origin originPresent inactive]
  · intro address after afterToo here hereToo
    obtain ⟨place, located, -⟩ := sound.owned.located address
    obtain ⟨placeToo, locatedToo, -⟩ := soundToo.owned.located address
    have led := locates_applyWindowChange sound bar snapshot addressed located
    have ledToo := locates_applyWindowChange soundToo bar snapshot addressed locatedToo
    rw [here.unique led, hereToo.unique ledToo,
      bare_leads sound.identified parallel.outline, parallel.placed located locatedToo,
      ← bare_leads sound.identified rfl]

theorem Parallel.applyWindowChanges (parallel : Parallel snapshot first second)
    (sound : first.Sound) (soundToo : second.Sound) (bar : Bar) {changes : List WindowChange}
    (addressed : ∀ change ∈ changes, change.IsAddressed) :
    Parallel snapshot (first.applyWindowChanges bar snapshot changes)
      (second.applyWindowChanges bar snapshot changes) := by
  induction changes generalizing first second with
  | nil => exact parallel
  | cons change rest inductionHypothesis =>
    have changeAddressed := addressed change List.mem_cons_self
    exact inductionHypothesis (parallel.applyWindowChange sound soundToo bar changeAddressed)
      (sound.applyWindowChange bar snapshot changeAddressed)
      (soundToo.applyWindowChange bar snapshot changeAddressed)
      fun other member => addressed other (List.mem_cons_of_mem _ member)

end Parallel

/-! ### The end of a tick -/

/-- An observation does not show on workspaces that have been observed before, whatever has become
of their windows. -/
theorem outline_observe_of_observed {origin model : Model} {bar : Bar} {snapshot : Snapshot}
    (observed : origin.Observed bar snapshot) (same : model.outline = origin.outline) :
    (model.observe bar snapshot).outline = model.outline := by
  rw [outline_observe]
  refine outline_ext (fun key => ?_) rfl
  show ((model.workspaces.mapValues (Workspace.observe bar snapshot)).get? key).map _ = _
  rw [SortedMap.get?_mapValues, Option.map_map]
  cases present : model.workspaces.get? key with
  | none => rfl
  | some workspace =>
    obtain ⟨other, otherPresent, outlined⟩ := get?_of_outline same present
    have known : (other.observe bar snapshot).outline = other.outline :=
      (congrArg Workspace.outline (observed.workspaces otherPresent) :)
    refine congrArg some ?_
    rw [Function.comp_apply, Workspace.outline_observe, ← outlined, ← Workspace.outline_observe,
      known]

section End

variable {origin model first second : Model} {bar : Bar} {snapshot : Snapshot}

/-- The end of a tick leaves a model abreast with what it was, if no window that waits is
forgotten. -/
theorem parallel_observe_growOrphans (observed : origin.Observed bar snapshot)
    (same : model.outline = origin.outline) {addresses : List String}
    (distinct : addresses.Nodup)
    (kept : ∀ address, (model.orphans.get? address).isSome = true →
      (((model.growOrphans bar addresses).observe bar snapshot).orphans.get? address).isSome =
        true) :
    Parallel snapshot model ((model.growOrphans bar addresses).observe bar snapshot) := by
  have grown := outline_growOrphans bar addresses model
  constructor
  · rw [outline_observe_of_observed observed (grown.trans same), grown]
  · rw [focused_observe, focused_growOrphans]
    cases snapshot.focusedAddress? <;> rfl
  · intro key workspace present inactive
    rw [urgency, get?_observe, workspaces_growOrphans, present, urgency, present, Option.map_some,
      Option.map_some, Option.map_some]
    refine congrArg some ((urgent_observe bar snapshot workspace).trans ?_)
    rw [inactive, Bool.not_false, Bool.and_true]
  · intro address place placeToo located locatedToo
    have after := locates_observe bar snapshot (locates_growOrphans bar distinct located)
    rw [locatedToo.unique after, Place.bare_told]
    split
    · next member =>
      refine Place.bare_older fun waits => ?_
      have still := kept address (located.orphan ▸ waits)
      rwa [after.orphan, if_pos member, Place.isSome_orphan_told] at still
    · rfl

/-- The same is made out of workspaces that go abreast. -/
theorem Parallel.get?_observe (parallel : Parallel snapshot first second) (sound : first.Sound)
    (soundToo : second.Sound) (bar : Bar) (key : Nat) :
    (second.observe bar snapshot).workspaces.get? key =
      (first.observe bar snapshot).workspaces.get? key := by
  rw [Model.get?_observe, Model.get?_observe, parallel.focused]
  cases present : first.workspaces.get? key with
  | none =>
    cases presentToo : second.workspaces.get? key with
    | none => rfl
    | some other =>
      obtain ⟨found, foundPresent, -⟩ := get?_of_outline parallel.outline presentToo
      cases present.symm.trans foundPresent
  | some workspace =>
    obtain ⟨other, presentToo, same⟩ := get?_of_outline parallel.outline.symm present
    have windows : other.windows = workspace.windows := by
      refine SortedMap.eq_of_get? fun address => ?_
      obtain ⟨place, located, -⟩ := sound.owned.located address
      obtain ⟨placeToo, locatedToo, -⟩ := soundToo.owned.located address
      rw [← textOn?_of_get? present, ← textOn?_of_get? presentToo, located.text, locatedToo.text,
        ← Place.text_bare place, ← Place.text_bare placeToo, parallel.placed located locatedToo]
    have observed : (other.observe bar snapshot).windows =
        (workspace.observe bar snapshot).windows := by
      rw [windows_observe, windows_observe, windows]
    have held : (other.observe bar snapshot).holds = (workspace.observe bar snapshot).holds :=
      funext fun address => by rw [Workspace.holds, observed, ← Workspace.holds]
    have urgent : (other.observe bar snapshot).flags.urgent =
        (workspace.observe bar snapshot).flags.urgent := by
      rw [urgent_observe, urgent_observe, showsActive_of_outline snapshot same]
      cases inactive : snapshot.showsActive workspace with
      | true => rw [Bool.not_true, Bool.and_false, Bool.and_false]
      | false =>
        have equally := parallel.urgency key workspace present inactive
        rw [urgency_of_get? present, urgency_of_get? presentToo] at equally
        rw [Option.some.inj equally]
    rw [presentToo, Option.map_some, Option.map_some]
    refine congrArg some (eq_of_outline ?_ urgent observed ?_)
    · rw [Workspace.outline_focusOn, Workspace.outline_focusOn, Workspace.outline_observe, same,
        ← Workspace.outline_observe]
    · rw [Workspace.focusOn, Workspace.focusOn, held]

/-- Age has no part in what is made out of workspaces. -/
theorem workspaces_observe_growOrphans (bar : Bar) (snapshot : Snapshot) (addresses : List String)
    (model : Model) : ((model.growOrphans bar addresses).observe bar snapshot).workspaces =
      (model.observe bar snapshot).workspaces := by
  refine SortedMap.eq_of_get? fun key => ?_
  rw [Model.get?_observe, Model.get?_observe, workspaces_growOrphans, focused_growOrphans]

theorem lastKey_observe_growOrphans (bar : Bar) (snapshot : Snapshot) (addresses : List String)
    (model : Model) :
    ((model.growOrphans bar addresses).observe bar snapshot).lastKey = model.lastKey := by
  have observed : ((model.growOrphans bar addresses).observe bar snapshot).lastKey =
      (model.growOrphans bar addresses).lastKey :=
    (congrArg Model.lastKey (outline_observe bar snapshot (model.growOrphans bar addresses)) :)
  exact observed.trans (lastKey_of_outline (outline_growOrphans ..))

/-- At the end of a tick models that go abreast have the same workspaces and the same focus, and
each window is at the same place, unless it was forgotten in one of them. -/
theorem Parallel.observe_growOrphans (parallel : Parallel snapshot first second)
    (sound : first.Sound) (soundToo : second.Sound) (bar : Bar)
    {addresses addressesToo : List String}
    (distinct : addresses.Nodup) (distinctToo : addressesToo.Nodup) :
    let after := (first.growOrphans bar addresses).observe bar snapshot
    let afterToo := (second.growOrphans bar addressesToo).observe bar snapshot
    afterToo.workspaces = after.workspaces ∧ afterToo.focused = after.focused ∧
      afterToo.lastKey = after.lastKey ∧
      ∀ address, ∃ place placeToo : Place, after.Locates address place ∧
        afterToo.Locates address placeToo ∧ place.Tallies bar placeToo := by
  intro after afterToo
  have focused : afterToo.focused = after.focused := by
    rw [focused_observe, focused_observe, focused_growOrphans, focused_growOrphans,
      parallel.focused]
  refine ⟨?_, focused, ?_, fun address => ?_⟩
  · rw [workspaces_observe_growOrphans, workspaces_observe_growOrphans]
    exact SortedMap.eq_of_get? (parallel.get?_observe sound soundToo bar)
  · rw [lastKey_observe_growOrphans, lastKey_observe_growOrphans,
      lastKey_of_outline parallel.outline]
  · obtain ⟨place, located, -⟩ := sound.owned.located address
    obtain ⟨placeToo, locatedToo, -⟩ := soundToo.owned.located address
    have here := locates_observe bar snapshot (locates_growOrphans bar distinct located)
    have hereToo := locates_observe bar snapshot (locates_growOrphans bar distinctToo locatedToo)
    have focus : afterToo.hasFocusOn address = after.hasFocusOn address := by
      rw [hasFocusOn, focused, ← hasFocusOn]
    refine ⟨_, _, here, hereToo, ?_⟩
    show Place.Tallies bar (Place.told (after.hasFocusOn address) _)
      (Place.told (afterToo.hasFocusOn address) _)
    rw [focus]
    exact Place.tallies_of_bare bar (parallel.placed located locatedToo) _ _ _

end End

/-! ### Changes against one snapshot -/

theorem applyWindowChanges_append (bar : Bar) (snapshot : Snapshot)
    (earlier later : List WindowChange) (model : Model) :
    model.applyWindowChanges bar snapshot (earlier ++ later) =
      (model.applyWindowChanges bar snapshot earlier).applyWindowChanges bar snapshot later :=
  List.foldl_append

section Settled

variable {model : Model} {bar : Bar} {snapshot : Snapshot}

/-- Changes of windows leave nothing to do for workspaces, as long as the reference of every
reported workspace that the bar takes in is its own reference. -/
theorem Settled.applyWindowChanges (settled : model.Settled bar snapshot)
    (plain : ∀ report ∈ snapshot.workspaces,
      workspaceReference (workspaceReference report.name) = workspaceReference report.name)
    (changes : List WindowChange) :
    (model.applyWindowChanges bar snapshot changes).Settled bar snapshot := by
  have placed := places_applyWindowChanges bar snapshot changes model
  constructor
  · exact settled.identified.of_outline placed.outline
  · exact settled.agrees.of_outline placed.outline
  · intro report member taken address window waits same
    rcases placed.unmet ⟨window, waits, same⟩ with ⟨old, oldWaits, oldSame⟩ | unmet
    · exact settled.claimed report member taken address old oldWaits oldSame
    · obtain ⟨key, workspace, present, adopted⟩ := settled.agrees.complete report member taken
      refine unmet key workspace present ?_
      rw [Workspace.reference_of_adopted adopted, plain report member]
  · intro raw member
    refine (settled.declared raw member).of_names fun key workspace present => ?_
    obtain ⟨after, afterPresent, outlined⟩ := get?_of_outline placed.outline.symm present
    exact ⟨after, afterPresent, (congrArg Workspace.name outlined :),
      Workspace.reference_of_outline outlined⟩

end Settled

end Model

namespace Tracker

theorem pushAll_windows (changes : List WindowChange) (tracker : Tracker) :
    tracker.pushAll (changes.map .window) =
      { tracker with
        backlog := { tracker.backlog with windows := tracker.backlog.windows ++ changes } } := by
  induction changes generalizing tracker with
  | nil => rw [List.append_nil]; rfl
  | cons change rest inductionHypothesis =>
    have queued : tracker.backlog.windows ++ [change] ++ rest =
        tracker.backlog.windows ++ change :: rest := List.append_assoc ..
    refine (inductionHypothesis (tracker.push (.window change))).trans ?_
    exact congrArg (fun windows => { tracker with
      backlog := { tracker.backlog with windows := windows } }) queued

theorem bar_pushAll (events : List Event) (tracker : Tracker) :
    (tracker.pushAll events).bar = tracker.bar :=
  List.foldlRecOn events _ (motive := fun next : Tracker => next.bar = tracker.bar) rfl
    fun _ same _ _ => same

/-- When nothing is to be done for workspaces, a tick comes to the changes of windows at once. -/
theorem midway_of_settled {tracker : Tracker} {snapshot : Snapshot}
    (settled : tracker.model.Settled tracker.bar snapshot)
    (distinct : (snapshot.workspaces.map ReportedWorkspace.id).Nodup)
    (unannounced : tracker.backlog.workspaces = []) (done : List WindowChange) :
    tracker.midway snapshot done =
      tracker.model.applyWindowChanges tracker.bar snapshot done := by
  rw [midway, unannounced]
  show ((tracker.model.align tracker.bar snapshot []).addAllDeclared
    tracker.bar).applyWindowChanges tracker.bar snapshot done = _
  rw [settled.align_eq_self distinct, settled.addAllDeclared_eq_self]

/-- What the bar knows after changes of windows have waited for a tick and nothing is to be done for
workspaces. -/
theorem model_tick_of_settled {tracker : Tracker} {snapshot : Snapshot}
    (settled : tracker.model.Settled tracker.bar snapshot)
    (distinct : (snapshot.workspaces.map ReportedWorkspace.id).Nodup)
    (loaded : tracker.loaded = true) (idle : tracker.backlog = {}) (changes : List WindowChange) :
    ((tracker.pushAll (changes.map .window)).tick snapshot).model =
      ((tracker.model.applyWindowChanges tracker.bar snapshot changes).growOrphans tracker.bar
        tracker.model.orphans.keys).observe tracker.bar snapshot := by
  let queued : Tracker := { tracker with backlog := { windows := changes } }
  have pushed : tracker.pushAll (changes.map .window) = queued := by
    rw [pushAll_windows, idle]
    rfl
  have carriesOn : queued.startsOver = false := by
    show (!tracker.loaded || false) = false
    rw [loaded]
    rfl
  have settledToo : queued.model.Settled queued.bar snapshot := settled
  have arrived : queued.midway snapshot changes =
      tracker.model.applyWindowChanges tracker.bar snapshot changes :=
    midway_of_settled settledToo distinct rfl changes
  rw [pushed]
  refine (nextModel_of_not_startsOver carriesOn snapshot).trans ?_
  rw [catchUp_eq]
  show ((queued.midway snapshot changes).growOrphans _ _).observe _ snapshot = _
  rw [arrived]

section Halves

variable {tracker : Tracker} {snapshot : Snapshot}

/-- A tick that carries out changes of windows and nothing else leaves a model that goes abreast
with the one in which they have just been carried out, and leaves nothing to do for workspaces. -/
theorem parallel_tick_of_settled (sound : tracker.model.Sound)
    (settled : tracker.model.Settled tracker.bar snapshot)
    (observed : tracker.model.Observed tracker.bar snapshot)
    (distinct : (snapshot.workspaces.map ReportedWorkspace.id).Nodup)
    (plain : ∀ report ∈ snapshot.workspaces,
      workspaceReference (workspaceReference report.name) = workspaceReference report.name)
    (loaded : tracker.loaded = true) (idle : tracker.backlog = {}) {changes : List WindowChange}
    (addressed : ∀ change ∈ changes, change.IsAddressed) :
    let reached := tracker.model.applyWindowChanges tracker.bar snapshot changes
    let after := (tracker.pushAll (changes.map .window)).tick snapshot
    (∀ address, (reached.orphans.get? address).isSome = true →
      (after.model.orphans.get? address).isSome = true) →
    Model.Parallel snapshot reached after.model ∧ after.model.Settled tracker.bar snapshot ∧
      after.model.Sound := by
  intro reached after remembered
  have ticked : after.model = (reached.growOrphans tracker.bar tracker.model.orphans.keys).observe
      tracker.bar snapshot := model_tick_of_settled settled distinct loaded idle changes
  have reachedSettled := settled.applyWindowChanges plain changes
  have reachedSound := sound.applyWindowChanges tracker.bar snapshot addressed
  have grown := reachedSound.owned.growOrphans tracker.bar tracker.model.orphans.keys
  rw [ticked] at remembered ⊢
  have settledAfter := (reachedSettled.growOrphans tracker.model.orphans.keys).observe distinct
  refine ⟨?_, settledAfter, settledAfter.identified, grown.observe ..⟩
  exact Model.parallel_observe_growOrphans observed (Model.outline_applyWindowChanges ..)
    tracker.model.orphans.keys_nodup remembered

end Halves

/-- After every run with addresses as the compositor writes them that ends with nothing to do, a
tick against a snapshot, and changes of windows that come in after it: they may be carried out in
one tick against the same snapshot or be split between two. The same buttons are shown, and the
workspaces with their windows and flags, the focus and the windows that wait are the same, but for
the time that windows have waited and for windows that are forgotten at the end of the last tick. No
window may be forgotten at the end of the first one, and the reference of every reported workspace
has to be its own reference. -/
theorem split_tick [Pattern.Engine] (config : BarConfig) {inputs : List Input}
    (addressed : AreAddressed inputs)
    (idle : (run config inputs).backlog.isEmpty = true) {snapshot : Snapshot}
    (snapshotAddressed : snapshot.IsAddressed)
    (distinct : (snapshot.workspaces.map ReportedWorkspace.id).Nodup)
    (plain : ∀ report ∈ snapshot.workspaces,
      workspaceReference (workspaceReference report.name) = workspaceReference report.name)
    {earlier later : List WindowChange}
    (changesAddressed : ∀ change ∈ earlier ++ later, change.IsAddressed) :
    let bar := Bar.ofConfig config
    let start := (run config inputs).tick snapshot
    let half := start.pushAll (earlier.map .window)
    let first := half.tick snapshot
    let second := (first.pushAll (later.map .window)).tick snapshot
    let whole := (start.pushAll ((earlier ++ later).map .window)).tick snapshot
    (∀ address, ((half.midway snapshot earlier).orphans.get? address).isSome = true →
      (first.model.orphans.get? address).isSome = true) →
    second.buttons = whole.buttons ∧ second.display = whole.display ∧
      second.model.workspaces = whole.model.workspaces ∧
      second.model.focused = whole.model.focused ∧
      second.model.lastKey = whole.model.lastKey ∧
      ∀ address, ∃ place placeToo : Place, whole.model.Locates address place ∧
        second.model.Locates address placeToo ∧ place.Tallies bar placeToo := by
  intro bar start half first second whole remembered
  have sameBar : start.bar = bar := bar_run config inputs
  obtain ⟨sound, waiting⟩ := sound_run config addressed
  obtain ⟨settled, observed⟩ := settled_nextModel sound.identified idle distinct
  have earlierAddressed : ∀ change ∈ earlier, change.IsAddressed :=
    fun change member => changesAddressed change (List.mem_append_left _ member)
  have laterAddressed : ∀ change ∈ later, change.IsAddressed :=
    fun change member => changesAddressed change (List.mem_append_right _ member)
  have startSound : start.model.Sound := sound.nextModel snapshotAddressed waiting
  have arrived : half.midway snapshot earlier =
      start.model.applyWindowChanges start.bar snapshot earlier := by
    have pushed : half = { start with backlog := { windows := earlier } } := pushAll_windows ..
    rw [pushed]
    exact midway_of_settled settled distinct rfl earlier
  rw [arrived] at remembered
  obtain ⟨parallel, firstSettled, firstSound⟩ := parallel_tick_of_settled startSound settled
    observed distinct plain rfl rfl earlierAddressed remembered
  have reachedSound := startSound.applyWindowChanges start.bar snapshot earlierAddressed
  -- The changes that are left are carried out in both runs.
  have both := (parallel.applyWindowChanges reachedSound firstSound start.bar
    laterAddressed).observe_growOrphans
      (reachedSound.applyWindowChanges start.bar snapshot laterAddressed)
      (firstSound.applyWindowChanges start.bar snapshot laterAddressed) start.bar
      start.model.orphans.keys_nodup first.model.orphans.keys_nodup
  have wholeModel : whole.model = (((start.model.applyWindowChanges start.bar snapshot
      earlier).applyWindowChanges start.bar snapshot later).growOrphans start.bar
        start.model.orphans.keys).observe start.bar snapshot := by
    rw [← Model.applyWindowChanges_append]
    exact model_tick_of_settled settled distinct rfl rfl (earlier ++ later)
  have firstBar : first.bar = start.bar := bar_pushAll (earlier.map .window) start
  have secondModel : second.model = ((first.model.applyWindowChanges start.bar snapshot
      later).growOrphans start.bar first.model.orphans.keys).observe start.bar snapshot := by
    rw [← firstBar] at firstSettled
    rw [← firstBar]
    exact model_tick_of_settled firstSettled distinct rfl rfl later
  dsimp only at both
  rw [← wholeModel, ← secondModel, sameBar] at both
  obtain ⟨workspaces, focused, lastKey, tallies⟩ := both
  have wholeBar : whole.bar = start.bar := bar_pushAll ((earlier ++ later).map .window) start
  have secondBar : second.bar = whole.bar :=
    (bar_pushAll (later.map .window) first).trans (firstBar.trans wholeBar.symm)
  have display : second.display = whole.display := by
    show (second.bar.config.arrangement.sort snapshot.monitors
      second.model.workspaces.values).map Workspace.key = _
    rw [workspaces, secondBar]
    rfl
  exact ⟨buttons_eq secondBar display workspaces, display, workspaces, focused, lastKey, tallies⟩

/-- A window is opened on a workspace that is not there, and waits through a tick before it is moved
to one that is. -/
theorem split_tick_moved :
    AreAddressed [] ∧ (run {} []).backlog.isEmpty = true ∧ sampleSnapshot.IsAddressed ∧
      (sampleSnapshot.workspaces.map ReportedWorkspace.id).Nodup ∧
      (∀ report ∈ sampleSnapshot.workspaces,
        workspaceReference (workspaceReference report.name) = workspaceReference report.name) ∧
      (∀ change ∈ [WindowChange.opened "ab" "2" "editor" "notes"] ++ [.moved "ab" "1"],
        change.IsAddressed) ∧
      let start := (run {} []).tick sampleSnapshot
      let half := start.pushAll [.window (.opened "ab" "2" "editor" "notes")]
      let first := half.tick sampleSnapshot
      let second := (first.pushAll [.window (.moved "ab" "1")]).tick sampleSnapshot
      let whole := (start.pushAll [.window (.opened "ab" "2" "editor" "notes"),
        .window (.moved "ab" "1")]).tick sampleSnapshot
      (∀ address, ((half.midway sampleSnapshot
          [.opened "ab" "2" "editor" "notes"]).orphans.get? address).isSome = true →
        (first.model.orphans.get? address).isSome = true) ∧
      first.model.orphans.keys = ["ab"] ∧ second.model.textOn? 1 "ab" = some "?" ∧
      second.buttons = whole.buttons ∧ second.model.workspaces = whole.model.workspaces := by
  have changesAddressed : ∀ change ∈ [WindowChange.opened "ab" "2" "editor" "notes"] ++
      [.moved "ab" "1"], change.IsAddressed := by
    intro change member address spoken
    rcases List.mem_append.mp member with opened | moved
    · rw [List.mem_singleton.mp opened] at spoken
      rw [← Option.some.inj spoken]
      exact isAddress_announced
    · rw [List.mem_singleton.mp moved] at spoken
      rw [← Option.some.inj spoken]
      exact isAddress_announced
  have addressed : AreAddressed [] := fun input member => absurd member List.not_mem_nil
  have plain : ∀ report ∈ sampleSnapshot.workspaces,
      workspaceReference (workspaceReference report.name) = workspaceReference report.name := by
    decide
  refine ⟨addressed, by decide, isAddressed_sampleSnapshot, by decide, plain, changesAddressed, ?_⟩
  intro start half first second whole
  have keys : (half.midway sampleSnapshot
      [.opened "ab" "2" "editor" "notes"]).orphans.keys = ["ab"] := by decide
  have remembered : ∀ address, ((half.midway sampleSnapshot
      [.opened "ab" "2" "editor" "notes"]).orphans.get? address).isSome = true →
        (first.model.orphans.get? address).isSome = true := by
    intro address waits
    have member := SortedMap.mem_keys_iff.mpr (Option.isSome_iff_exists.mp waits)
    rw [keys, List.mem_singleton] at member
    rw [member]
    decide
  obtain ⟨buttons, -, workspaces, -⟩ := split_tick {} addressed (by decide)
    isAddressed_sampleSnapshot (by decide) plain changesAddressed remembered
  exact ⟨remembered, by decide, by decide, buttons, workspaces⟩

end Tracker

end Deskbar
