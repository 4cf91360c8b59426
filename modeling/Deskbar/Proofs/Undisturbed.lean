/-
This file shows that the announcement of a workspace that is not on the bar disturbs no other one. A
tick that carries out nothing else keeps every workspace whose report the bar takes in: under its
key, under its id and, until it is active, as urgent as it was.

Its windows may change all the same, since they follow the snapshot. A workspace that comes onto the
bar gathers the windows that the snapshot counts to it from wherever they are, and a report lets its
workspace claim what waits for it, which may be the windows of a workspace that has gone. Nothing
else moves a window, and this is shown for one window at a time.
-/

import Deskbar.Proofs.Delivery
import Deskbar.Proofs.Journey
import Deskbar.Proofs.Urgency

namespace Deskbar

namespace Model

/-! ### Workspaces that go -/

theorem isStale_of_id {bar : Bar} {snapshot : Snapshot} {first second : Workspace}
    (same : first.id = second.id) :
    isStale bar snapshot first = isStale bar snapshot second := by
  rw [isStale, isStale, same]

/-- Whether the workspace with a key is one whose report is gone. -/
def Leaves (bar : Bar) (snapshot : Snapshot) (model : Model) (key : Nat) : Prop :=
  ∃ workspace, model.workspaces.get? key = some workspace ∧
    isStale bar snapshot workspace = true

theorem leaves_of_mem {model : Model} (identified : model.Identified) {bar : Bar}
    {snapshot : Snapshot} {key : Nat}
    (member : key ∈ (model.workspaces.values.filter (isStale bar snapshot)).map Workspace.key) :
    model.Leaves bar snapshot key := by
  obtain ⟨workspace, kept, rfl⟩ := List.mem_map.mp member
  obtain ⟨listed, stale⟩ := List.mem_filter.mp kept
  obtain ⟨key, present⟩ := SortedMap.mem_values_iff.mp listed
  rw [identified.keyed present]
  exact ⟨workspace, present, stale⟩

/-- A workspace whose report the bar takes in stays. -/
theorem not_leaves_of_mem {model : Model} {bar : Bar} {snapshot : Snapshot}
    (distinct : (snapshot.workspaces.map ReportedWorkspace.id).Nodup) {report : ReportedWorkspace}
    (member : report ∈ snapshot.workspaces) (taken : bar.takesReport report = true) {key : Nat}
    {workspace : Workspace} (present : model.workspaces.get? key = some workspace)
    (reported : workspace.id = some report.id) : ¬model.Leaves bar snapshot key := by
  rintro ⟨other, otherPresent, stale⟩
  rw [Option.some.inj (otherPresent.symm.trans present),
    isStale_eq_false distinct member taken reported] at stale
  cases stale

/-- A report makes no workspace go. -/
theorem leaves_of_ensure {model : Model} {bar : Bar} {snapshot : Snapshot}
    (distinct : (snapshot.workspaces.map ReportedWorkspace.id).Nodup) {report : ReportedWorkspace}
    (member : report ∈ snapshot.workspaces) {key : Nat}
    (leaves : (model.ensure bar snapshot report).Leaves bar snapshot key) :
    model.Leaves bar snapshot key := by
  obtain ⟨workspace, present, stale⟩ := leaves
  cases reported : workspace.id with
  | none =>
    rw [isStale, reported] at stale
    cases stale
  | some id =>
    rcases reported_of_ensure snapshot present reported with ⟨taken, rfl⟩ | ⟨before, found, had⟩
    · rw [isStale_eq_false distinct member taken reported] at stale
      cases stale
    · exact ⟨before, found, (isStale_of_id (had.trans reported.symm)).trans stale⟩

/-! ### Workspaces that stay -/

/-- A report leaves a workspace that is reported under its key and its id, and as urgent as it
was. -/
theorem exists_get?_ensure {model : Model} (identified : model.Identified) (bar : Bar)
    (snapshot : Snapshot) (report : ReportedWorkspace) {key : Nat} {workspace : Workspace}
    {id : Int} (present : model.workspaces.get? key = some workspace)
    (reported : workspace.id = some id) :
    ∃ after, (model.ensure bar snapshot report).workspaces.get? key = some after ∧
      after.id = some id ∧ after.flags.urgent = workspace.flags.urgent := by
  have urgent := urgency_ensure_of_get? identified bar snapshot report present
  obtain ⟨after, afterPresent, itsOwn⟩ : ∃ after,
      (model.ensure bar snapshot report).workspaces.get? key = some after ∧
        after.id = some id := by
    by_cases same : id = report.id
    · cases taken : bar.takesReport report with
      | false =>
        rw [ensure_of_refused taken]
        exact ⟨workspace, present, reported⟩
      | true =>
        have found : model.forReport? report = some workspace := by
          rw [forReport?, identified.withId?_eq_some present (same ▸ reported)]
          rfl
        have adopted := get?_update_self present fun workspace => workspace.adopt report
        have outlined := outline_ensure_of_found taken snapshot found
        rw [identified.keyed present] at outlined
        obtain ⟨after, afterPresent, outline⟩ := get?_of_outline outlined.symm adopted
        refine ⟨after, afterPresent, (Workspace.id_of_outline outline).trans ?_⟩
        exact congrArg some same.symm
    · obtain ⟨after, afterPresent, outline⟩ :=
        get?_ensure_of_id_ne identified snapshot present reported same
      exact ⟨after, afterPresent, (Workspace.id_of_outline outline).trans reported⟩
  exact ⟨after, afterPresent, itsOwn,
    Option.some.inj ((urgency_of_get? afterPresent).symm.trans urgent)⟩

/-- Every workspace whose report the bar takes in is where it was in an earlier model, and as urgent
as it was. -/
structure Retains (bar : Bar) (snapshot : Snapshot) (origin model : Model) : Prop where
  sound : model.Sound
  kept : ∀ {key workspace report}, origin.workspaces.get? key = some workspace →
    report ∈ snapshot.workspaces → bar.takesReport report = true →
    workspace.id = some report.id →
    ∃ after, model.workspaces.get? key = some after ∧ after.id = some report.id ∧
      after.flags.urgent = workspace.flags.urgent

namespace Retains

variable {bar : Bar} {snapshot : Snapshot} {origin model : Model}

theorem refl (sound : origin.Sound) : origin.Retains bar snapshot origin :=
  ⟨sound, fun present _ _ reported => ⟨_, present, reported, rfl⟩⟩

theorem ensure (retains : origin.Retains bar snapshot model) (addressed : snapshot.IsAddressed)
    (report : ReportedWorkspace) :
    origin.Retains bar snapshot (model.ensure bar snapshot report) := by
  refine ⟨retains.sound.ensure addressed bar report, fun present member taken reported => ?_⟩
  obtain ⟨between, betweenPresent, itsOwn, urgent⟩ := retains.kept present member taken reported
  obtain ⟨after, afterPresent, stillItsOwn, stillUrgent⟩ :=
    exists_get?_ensure retains.sound.identified bar snapshot report betweenPresent itsOwn
  exact ⟨after, afterPresent, stillItsOwn, stillUrgent.trans urgent⟩

theorem removeStale (retains : origin.Retains bar snapshot model)
    (distinct : (snapshot.workspaces.map ReportedWorkspace.id).Nodup) :
    origin.Retains bar snapshot (model.removeStale bar snapshot) := by
  refine List.foldlRecOn _ _ (motive := fun next => origin.Retains bar snapshot next) retains ?_
  intro next nextRetains removed member
  refine ⟨nextRetains.sound.remove snapshot removed,
    fun {key _ _} present reportMember taken reported => ?_⟩
  obtain ⟨between, betweenPresent, itsOwn, urgent⟩ :=
    nextRetains.kept present reportMember taken reported
  obtain ⟨first, firstPresent, firstOwn, -⟩ := retains.kept present reportMember taken reported
  have apart : key ≠ removed := by
    rintro rfl
    exact not_leaves_of_mem distinct reportMember taken firstPresent firstOwn
      (leaves_of_mem retains.sound.identified member)
  have outlined := get?_outline_remove_of_ne next snapshot apart
  rw [get?_outline next, betweenPresent, get?_outline] at outlined
  obtain ⟨after, afterPresent, same⟩ := Option.map_eq_some_iff.mp outlined
  have urgency := urgency_remove_of_ne next snapshot apart
  rw [urgency_of_get? afterPresent, urgency_of_get? betweenPresent] at urgency
  exact ⟨after, afterPresent, (Workspace.id_of_outline same).trans itsOwn,
    (Option.some.inj urgency).trans urgent⟩

theorem addDeclared (retains : origin.Retains bar snapshot model) (raw : String) :
    origin.Retains bar snapshot (model.addDeclared bar raw) := by
  refine ⟨retains.sound.addDeclared bar raw, fun present member taken reported => ?_⟩
  obtain ⟨after, afterPresent, kept⟩ := retains.kept present member taken reported
  refine ⟨after, ?_, kept⟩
  rw [Model.addDeclared]
  dsimp only
  split
  · exact retains.sound.identified.get?_insert_next afterPresent _
  · exact afterPresent

end Retains

/-! ### Windows that may move -/

/-- The snapshot counts a window to a workspace that comes onto the bar. -/
def Draws (bar : Bar) (snapshot : Snapshot) (address : String) (model : Model) : Prop :=
  ∃ window ∈ snapshot.windows, ∃ report ∈ snapshot.workspaces,
    plainAddress window.address = address ∧ window.workspace.id = report.id ∧
      bar.takesReport report = true ∧ model.withId? report.id = none

/-- A window waits under a reference, or will do so when its workspace goes. -/
def Awaits (bar : Bar) (snapshot : Snapshot) (reference address : String) (model : Model) : Prop :=
  (∃ window, model.orphans.get? address = some window ∧ window.workspace = reference) ∨
    ∃ key text listed, model.textOn? key address = some text ∧ model.Leaves bar snapshot key ∧
      snapshot.window? address = some listed ∧
        workspaceReference listed.workspace.name = reference

end Model

/-- A window is not on the workspace with a key, and does not wait under its reference. It will not
do so when its workspace goes either. -/
def Place.StaysAway (snapshot : Snapshot) (address reference : String) (key : Nat)
    (leaving : Nat → Prop) : Place → Prop
  | .nowhere => True
  | .waiting window => window.workspace ≠ reference
  | .shown other _ => other ≠ key ∧ (leaving other → ∀ listed,
      snapshot.window? address = some listed →
        workspaceReference listed.workspace.name ≠ reference)

theorem Place.StaysAway.mono {snapshot : Snapshot} {address reference : String} {key : Nat}
    {leaving still : Nat → Prop} {place : Place}
    (away : place.StaysAway snapshot address reference key leaving)
    (fewer : ∀ other, still other → leaving other) :
    place.StaysAway snapshot address reference key still := by
  cases place with
  | nowhere => trivial
  | waiting window => exact away
  | shown other text => exact ⟨away.1, fun leaves => away.2 (fewer other leaves)⟩

theorem Window.staysAway_placeOn {snapshot : Snapshot} {address reference : String} {key : Nat}
    {leaving : Nat → Prop} (rewriter : Rewriter) (window : Window) {other : Nat}
    (different : other ≠ key) (stays : ¬leaving other) :
    (window.placeOn rewriter other).StaysAway snapshot address reference key leaving := by
  rw [placeOn]
  split
  · trivial
  · exact ⟨different, fun leaves => absurd leaves stays⟩

namespace Model

/-- A window is still shown on a workspace as it was, or is away from it, and if it was there the
snapshot has drawn it. -/
def Follows (bar : Bar) (snapshot : Snapshot) (origin : Model) (report : ReportedWorkspace)
    (key : Nat) (address : String) (leaving : Nat → Prop) (model : Model) : Prop :=
  ∃ place : Place, model.Locates address place ∧
    ((∃ text, origin.textOn? key address = some text ∧ place = .shown key text) ∨
      (origin.textOn? key address ≠ none → origin.Draws bar snapshot address) ∧
        place.StaysAway snapshot address (workspaceReference report.name) key leaving)

section Windows

variable {bar : Bar} {snapshot : Snapshot} {origin model : Model} {report : ReportedWorkspace}
  {key : Nat} {address : String} {leaving : Nat → Prop}

theorem follows_self (sound : origin.Sound)
    (unawaited : origin.textOn? key address = none →
      ¬origin.Awaits bar snapshot (workspaceReference report.name) address) :
    origin.Follows bar snapshot report key address (origin.Leaves bar snapshot) origin := by
  obtain ⟨place, located, -⟩ := sound.owned.located address
  have onKey := located.text key
  refine ⟨place, located, ?_⟩
  cases place with
  | nowhere => exact Or.inr ⟨fun shown => absurd onKey shown, trivial⟩
  | waiting window =>
    refine Or.inr ⟨fun shown => absurd onKey shown, fun same => ?_⟩
    exact unawaited onKey (Or.inl ⟨window, located.orphan, same⟩)
  | shown other text =>
    by_cases same : other = key
    · subst same
      exact Or.inl ⟨text, onKey.trans (if_pos rfl), rfl⟩
    · have absent : origin.textOn? key address = none := onKey.trans (if_neg (Ne.symm same))
      refine Or.inr ⟨fun shown => absurd absent shown, same, fun leaves listed found refers => ?_⟩
      have here : origin.textOn? other address = some text :=
        (located.text other).trans (if_pos rfl)
      exact unawaited absent (Or.inr ⟨other, text, listed, here, leaves, found, refers⟩)

/-- A report takes no window from a workspace that is reported, unless it brings one onto the bar
that draws the window, and gives it none that does not wait for it. -/
theorem Follows.ensure {workspace : Workspace}
    (follows : origin.Follows bar snapshot report key address leaving model)
    (retains : origin.Retains bar snapshot model) (addressed : snapshot.IsAddressed)
    (distinct : (snapshot.workspaces.map ReportedWorkspace.id).Nodup)
    (present : origin.workspaces.get? key = some workspace)
    (member : report ∈ snapshot.workspaces) (reported : workspace.id = some report.id)
    (taken : bar.takesReport report = true) {other : ReportedWorkspace}
    (otherMember : other ∈ snapshot.workspaces) {still : Nat → Prop}
    (fewer : ∀ key, still key → leaving key)
    (stays : ∀ key workspace,
      (model.ensure bar snapshot other).workspaces.get? key = some workspace →
      workspace.id = some other.id → bar.takesReport other = true → ¬still key) :
    origin.Follows bar snapshot report key address still (model.ensure bar snapshot other) := by
  obtain ⟨place, located, moves⟩ := follows
  obtain ⟨next, here, rfl | ⟨entered, enterer, otherTaken, entererPresent, entererReported,
    enters⟩⟩ := exists_locates_ensure retains.sound addressed bar other located
  · exact ⟨next, here, moves.imp_right fun away => ⟨away.1, away.2.mono fewer⟩⟩
  · refine ⟨next, here, Or.inr ?_⟩
    have notLeaving := stays entered enterer entererPresent entererReported otherTaken
    have apart : other.id ≠ report.id → entered ≠ key := by
      rintro different rfl
      obtain ⟨after, afterPresent, itsOwn, -⟩ :=
        (retains.ensure addressed other).kept present member taken reported
      rw [Option.some.inj (entererPresent.symm.trans afterPresent), itsOwn] at entererReported
      exact different (Option.some.inj entererReported).symm
    cases enters with
    | claimed waits =>
      rcases moves with ⟨text, -, shown⟩ | ⟨drawn, away⟩
      · cases shown
      · refine ⟨drawn, Window.staysAway_placeOn bar.rewriter _ (apart fun same => away ?_)
          notLeaving⟩
        rw [waits, List.inj_on_of_nodup_map distinct otherMember member same]
    | gathered _ listed itsOwn counted joins =>
      obtain ⟨after, afterPresent, afterReported, -⟩ :=
        retains.kept present member taken reported
      refine ⟨fun _ => ⟨_, listed, other, otherMember, itsOwn, counted, otherTaken, ?_⟩,
        Window.staysAway_placeOn bar.rewriter _ (apart fun same => ?_) notLeaving⟩
      · refine withId?_eq_none_iff.mpr fun otherKey before beforePresent had => ?_
        obtain ⟨still, stillPresent, stillReported, -⟩ :=
          retains.kept beforePresent otherMember otherTaken had
        exact withId?_eq_none_iff.mp joins otherKey still stillPresent stillReported
      · rw [same] at joins
        exact withId?_eq_none_iff.mp joins key after afterPresent afterReported

/-- Removal of the workspaces that go gives a window to none that stays. -/
theorem Follows.removeStale {workspace : Workspace}
    (follows : origin.Follows bar snapshot report key address (model.Leaves bar snapshot) model)
    (retains : origin.Retains bar snapshot model)
    (distinct : (snapshot.workspaces.map ReportedWorkspace.id).Nodup)
    (present : origin.workspaces.get? key = some workspace)
    (member : report ∈ snapshot.workspaces) (reported : workspace.id = some report.id)
    (taken : bar.takesReport report = true) :
    origin.Follows bar snapshot report key address (fun _ => False)
      (model.removeStale bar snapshot) := by
  obtain ⟨kept, keptPresent, keptReported, -⟩ := retains.kept present member taken reported
  have stays := not_leaves_of_mem distinct member taken keptPresent keptReported
  refine (List.foldlRecOn _ _ (motive := fun next => Owned next ∧
    origin.Follows bar snapshot report key address (model.Leaves bar snapshot) next)
    ⟨retains.sound.owned, follows⟩ ?_).2.imp fun place moves => ⟨moves.1, ?_⟩
  · rintro next ⟨owned, place, located, moves⟩ removed removedMember
    have leaves := leaves_of_mem retains.sound.identified removedMember
    refine ⟨owned.remove snapshot removed, ?_⟩
    obtain ⟨after, here, ⟨rfl, -⟩ | ⟨text, rfl, rfl⟩⟩ :=
      exists_locates_remove owned snapshot removed located
    · exact ⟨after, here, moves⟩
    · refine ⟨_, here, Or.inr ?_⟩
      rcases moves with ⟨other, -, shown⟩ | ⟨drawn, away⟩
      · cases shown
        exact absurd leaves stays
      · refine ⟨drawn, ?_⟩
        rw [Snapshot.leftBehind?]
        cases listed : snapshot.window? address with
        | none => trivial
        | some window => exact away.2 leaves window listed
  · exact moves.2.imp_right fun away => ⟨away.1, away.2.mono fun _ none => none.elim⟩

/-- A workspace has the windows that it had when the windows of the model have followed. -/
theorem Follows.textOn? (follows : origin.Follows bar snapshot report key address leaving model) :
    model.textOn? key address = origin.textOn? key address ∨
      model.textOn? key address = none ∧ origin.Draws bar snapshot address := by
  obtain ⟨place, located, ⟨text, before, rfl⟩ | ⟨drawn, away⟩⟩ := follows
  · exact Or.inl ((located.text key).trans ((if_pos rfl).trans before.symm))
  · have absent : model.textOn? key address = none := by
      rw [located.text key]
      cases place with
      | nowhere => rfl
      | waiting window => rfl
      | shown other text => exact if_neg (Ne.symm away.1)
    rw [absent]
    by_cases had : origin.textOn? key address = none
    · exact Or.inl had.symm
    · exact Or.inr ⟨rfl, drawn had⟩

end Windows

/-! ### Ticks -/

section Ticks

variable {bar : Bar} {snapshot : Snapshot} {origin reached : Model}

/-- A name means no workspace when none is called or referred to by it. -/
theorem named?_eq_none {model : Model} {raw : String}
    (unnamed : ∀ key workspace, model.workspaces.get? key = some workspace →
      workspace.name ≠ shownName raw ∧ workspace.reference ≠ workspaceReference raw) :
    model.named? raw = none :=
  Option.or_eq_none_iff.mpr
    ⟨first?_eq_none_iff.mpr fun key workspace present =>
        decide_eq_false (unnamed key workspace present).1,
      first?_eq_none_iff.mpr fun key workspace present =>
        decide_eq_false (unnamed key workspace present).2⟩

/-- To bring a workspace onto the bar by its name is to let one report come, or nothing. -/
theorem ensureNamed_eq (bar : Bar) (snapshot : Snapshot) (raw : String) (model : Model) :
    model.ensureNamed bar snapshot raw = model ∨ ∃ report ∈ snapshot.workspaces,
      model.ensureNamed bar snapshot raw = model.ensure bar snapshot report := by
  rw [ensureNamed]
  split
  · next report found =>
    refine Or.inr ⟨report, ?_, rfl⟩
    rcases Option.or_eq_some_iff.mp found with named | ⟨-, referred⟩
    · exact List.mem_of_find?_eq_some named
    · exact List.mem_of_find?_eq_some referred
  · exact Or.inl rfl

/-- The announcement that a workspace is destroyed or moved which is not on the bar changes nothing,
or lets a report come. -/
theorem applyChanges_of_unrelated {change : WorkspaceChange} {id : Int} {raw : String}
    (about : change = .destroyed (some id) raw ∨ ∃ monitor, change = .moved raw monitor)
    (unrelated : ∀ key workspace, origin.workspaces.get? key = some workspace →
      workspace.id ≠ some id ∧ ∀ name ∈ [raw, shownName raw],
        workspace.name ≠ shownName name ∧ workspace.reference ≠ workspaceReference name)
    (bar : Bar) (snapshot : Snapshot) :
    (origin.removeDestroyed snapshot [change]).applyChanges bar snapshot [change] = origin ∨
      ∃ report ∈ snapshot.workspaces,
        (origin.removeDestroyed snapshot [change]).applyChanges bar snapshot [change] =
          origin.ensure bar snapshot report := by
  have unmeant : ∀ name ∈ [raw, shownName raw], origin.named? name = none := fun name member =>
    named?_eq_none fun key workspace present => (unrelated key workspace present).2 name member
  rcases about with rfl | ⟨monitor, rfl⟩
  · have missing : origin.withId? id = none := withId?_eq_none_iff.mpr fun key workspace present =>
      (unrelated key workspace present).1
    have unaffected : origin.removeIfDestroyed snapshot (.destroyed (some id) raw) = origin := by
      rw [removeIfDestroyed, destroyed?, Option.bind_some, missing,
        unmeant (shownName raw) (by simp)]
      rfl
    exact Or.inl unaffected
  · have ensured : origin.applyChange bar snapshot (.moved raw monitor) =
        origin.ensureNamed bar snapshot raw := by
      rw [applyChange, unmeant raw (by simp)]
    show origin.applyChange bar snapshot (.moved raw monitor) = origin ∨
      ∃ report ∈ snapshot.workspaces, origin.applyChange bar snapshot (.moved raw monitor) =
        origin.ensure bar snapshot report
    rw [ensured]
    exact ensureNamed_eq bar snapshot raw origin

/-- Alignment and the declarations keep every workspace whose report the bar takes in, also when one
report has come before. -/
theorem retains_align (sound : origin.Sound) (addressed : snapshot.IsAddressed)
    (distinct : (snapshot.workspaces.map ReportedWorkspace.id).Nodup)
    (change : reached = origin ∨ ∃ report ∈ snapshot.workspaces,
      reached = origin.ensure bar snapshot report) (excluded : List String) :
    origin.Retains bar snapshot ((reached.align bar snapshot excluded).addAllDeclared bar) := by
  have changed : origin.Retains bar snapshot reached := by
    rcases change with rfl | ⟨report, -, rfl⟩
    · exact Retains.refl sound
    · exact (Retains.refl sound).ensure addressed report
  have aligned : origin.Retains bar snapshot (reached.align bar snapshot excluded) :=
    List.foldlRecOn _ _ (changed.removeStale distinct)
      fun _ retains report _ => retains.ensure addressed report
  exact List.foldlRecOn _ _ aligned fun _ retains raw _ => retains.addDeclared raw

/-- They also keep the windows of such a workspace, but for those that follow the snapshot. -/
theorem follows_align (sound : origin.Sound) (addressed : snapshot.IsAddressed)
    (distinct : (snapshot.workspaces.map ReportedWorkspace.id).Nodup)
    (change : reached = origin ∨ ∃ report ∈ snapshot.workspaces,
      reached = origin.ensure bar snapshot report) (excluded : List String) {key : Nat}
    {workspace : Workspace} (present : origin.workspaces.get? key = some workspace)
    {report : ReportedWorkspace} (member : report ∈ snapshot.workspaces)
    (reported : workspace.id = some report.id) (taken : bar.takesReport report = true)
    {address : String}
    (unawaited : origin.textOn? key address = none →
      ¬origin.Awaits bar snapshot (workspaceReference report.name) address) :
    origin.Follows bar snapshot report key address (fun _ => False)
      ((reached.align bar snapshot excluded).addAllDeclared bar) := by
  have start := follows_self sound unawaited
  have changed : origin.Retains bar snapshot reached ∧
      origin.Follows bar snapshot report key address (reached.Leaves bar snapshot) reached := by
    rcases change with rfl | ⟨other, otherMember, rfl⟩
    · exact ⟨Retains.refl sound, start⟩
    · refine ⟨(Retains.refl sound).ensure addressed other, start.ensure (Retains.refl sound)
        addressed distinct present member reported taken otherMember ?_ ?_⟩
      · exact fun _ => leaves_of_ensure distinct otherMember
      · exact fun _ _ found itsOwn otherTaken =>
          not_leaves_of_mem distinct otherMember otherTaken found itsOwn
  have aligned : origin.Retains bar snapshot (reached.align bar snapshot excluded) ∧
      origin.Follows bar snapshot report key address (fun _ => False)
        (reached.align bar snapshot excluded) := by
    refine List.foldlRecOn _ _ (motive := fun next => origin.Retains bar snapshot next ∧
      origin.Follows bar snapshot report key address (fun _ => False) next)
      ⟨changed.1.removeStale distinct, changed.2.removeStale changed.1 distinct present member
        reported taken⟩ ?_
    intro next ⟨retains, follows⟩ other otherMember
    have listed : other ∈ snapshot.workspaces :=
      (sortBy_perm (compareOn ReportedWorkspace.id) snapshot.workspaces).mem_iff.mp
        (List.mem_of_mem_filter otherMember)
    exact ⟨retains.ensure addressed other, follows.ensure retains addressed distinct present member
      reported taken listed (fun _ => id) fun _ _ _ _ _ => id⟩
  obtain ⟨place, located, moves⟩ := aligned.2
  exact ⟨place, located.of_holding
    (holding_addAllDeclared aligned.1.sound.identified bar address), moves⟩

end Ticks

end Model

namespace Tracker

/-- Before the first tick nothing is known. -/
theorem model_eq_empty [Pattern.Engine] (config : BarConfig) (inputs : List Input)
    (fresh : (run config inputs).loaded = false) : (run config inputs).model = Model.empty := by
  refine run_induction (motive := fun tracker => tracker.loaded = false →
    tracker.model = Model.empty) (fun _ => rfl) (fun tracker kept input _ unloaded => ?_) fresh
  cases input with
  | event event => exact kept unloaded
  | snapshot snapshot => cases unloaded

/-- A tick that carries out nothing but an announcement about a workspace that is not on the bar
aligns what it knows when at most one report has come before. -/
theorem exists_aligned_of_unrelated {tracker : Tracker} (snapshot : Snapshot)
    (loaded : tracker.loaded = true) {change : WorkspaceChange} {id : Int} {raw : String}
    (about : change = .destroyed (some id) raw ∨ ∃ monitor, change = .moved raw monitor)
    (announced : tracker.backlog = { workspaces := [change] })
    (unrelated : ∀ key workspace, tracker.model.workspaces.get? key = some workspace →
      workspace.id ≠ some id ∧ ∀ name ∈ [raw, shownName raw],
        workspace.name ≠ shownName name ∧ workspace.reference ≠ workspaceReference name) :
    ∃ reached excluded,
      (reached = tracker.model ∨ ∃ report ∈ snapshot.workspaces,
        reached = tracker.model.ensure tracker.bar snapshot report) ∧
      tracker.nextModel snapshot =
        (((reached.align tracker.bar snapshot excluded).addAllDeclared tracker.bar).growOrphans
          tracker.bar tracker.model.orphans.keys).observe tracker.bar snapshot := by
  have carriesOn : tracker.startsOver = false := by
    rw [startsOver, loaded, announced]
    rfl
  refine ⟨_, [change].filterMap Model.destroyedName?,
    Model.applyChanges_of_unrelated about unrelated tracker.bar snapshot, ?_⟩
  rw [nextModel_of_not_startsOver carriesOn, announced]
  rfl

/-- After every run with addresses as the compositor writes them, a tick that carries out nothing
but the announcement that a workspace is destroyed or moved which is not on the bar, by its id or by
its name, keeps every workspace whose report the bar takes in, under its key and its id, and as
urgent as it was until it is active. It loses only windows that the snapshot counts to a workspace
that comes onto the bar, and gets only windows that have waited for it or whose workspace has
gone. -/
theorem undisturbed_tick [Pattern.Engine] (config : BarConfig) {inputs : List Input}
    (addressed : AreAddressed inputs) {snapshot : Snapshot}
    (snapshotAddressed : snapshot.IsAddressed)
    (distinct : (snapshot.workspaces.map ReportedWorkspace.id).Nodup) {change : WorkspaceChange}
    {id : Int} {raw : String}
    (about : change = .destroyed (some id) raw ∨ ∃ monitor, change = .moved raw monitor)
    (announced : (run config inputs).backlog = { workspaces := [change] })
    (unrelated : ∀ key workspace,
      (run config inputs).model.workspaces.get? key = some workspace →
      workspace.id ≠ some id ∧ ∀ name ∈ [raw, shownName raw],
        workspace.name ≠ shownName name ∧ workspace.reference ≠ workspaceReference name)
    {key : Nat} {workspace : Workspace}
    (present : (run config inputs).model.workspaces.get? key = some workspace)
    {report : ReportedWorkspace} (member : report ∈ snapshot.workspaces)
    (reported : workspace.id = some report.id)
    (taken : (Bar.ofConfig config).takesReport report = true) :
    let bar := Bar.ofConfig config
    let before := (run config inputs).model
    ∃ after, ((run config inputs).tick snapshot).model.workspaces.get? key = some after ∧
      after.key = workspace.key ∧ after.id = workspace.id ∧
      after.flags.urgent = (workspace.flags.urgent && !after.flags.active) ∧
      (∀ address text, workspace.windows.get? address = some text →
        after.windows.get? address = some text ∨ before.Draws bar snapshot address) ∧
      ∀ address text, after.windows.get? address = some text →
        workspace.windows.get? address = some text ∨
          before.Awaits bar snapshot (workspaceReference report.name) address := by
  intro bar before
  obtain ⟨sound, -⟩ := sound_run config addressed
  have loaded : (run config inputs).loaded = true := by
    by_contra fresh
    rw [model_eq_empty config inputs (Bool.not_eq_true _ ▸ fresh)] at present
    cases present
  obtain ⟨reached, excluded, changed, same⟩ :=
    exists_aligned_of_unrelated snapshot loaded about announced unrelated
  rw [bar_run] at changed same
  have retains := Model.retains_align sound snapshotAddressed distinct changed excluded
  obtain ⟨between, betweenPresent, itsOwn, urgent⟩ := retains.kept present member taken reported
  rw [← Model.workspaces_growOrphans bar before.orphans.keys] at betweenPresent
  obtain ⟨after, afterPresent⟩ : ∃ after,
      ((run config inputs).nextModel snapshot).workspaces.get? key = some after := by
    rw [same, Model.get?_observe, betweenPresent]
    exact ⟨_, rfl⟩
  have texts : ∀ address, after.windows.get? address =
      ((reached.align bar snapshot excluded).addAllDeclared bar).textOn? key address := by
    intro address
    rw [← Model.textOn?_of_get? afterPresent, same, Model.textOn?_observe,
      Model.textOn?_growOrphans]
  have held : ∀ address, before.textOn? key address = workspace.windows.get? address :=
    Model.textOn?_of_get? present
  have moves : ∀ address, ¬before.Awaits bar snapshot (workspaceReference report.name) address ∨
      before.textOn? key address ≠ none →
      after.windows.get? address = workspace.windows.get? address ∨
        after.windows.get? address = none ∧ before.Draws bar snapshot address := by
    intro address awaited
    rw [texts, ← held]
    refine (Model.follows_align sound snapshotAddressed distinct changed excluded present member
      reported taken fun absent => ?_).textOn?
    exact awaited.resolve_right (not_not_intro absent)
  have identified := (Model.identified_run config inputs).nextModel snapshot
  refine ⟨after, afterPresent, ?_, ?_, ?_, fun address text found => ?_,
    fun address text found => ?_⟩
  · rw [identified.keyed afterPresent, sound.identified.keyed present]
  · rw [same, Model.get?_observe, betweenPresent] at afterPresent
    rw [← Option.some.inj afterPresent, reported, ← itsOwn]
    exact Workspace.id_observe bar snapshot between
  · rw [← urgent]
    rw [same] at afterPresent
    exact Model.urgency_observe bar snapshot betweenPresent afterPresent
  · rcases moves address (Or.inr (by rw [held, found]; exact Option.some_ne_none text)) with
      kept | ⟨-, drawn⟩
    · exact Or.inl (kept.trans found)
    · exact Or.inr drawn
  · by_cases awaits : before.Awaits bar snapshot (workspaceReference report.name) address
    · exact Or.inr awaits
    · rcases moves address (Or.inl awaits) with kept | ⟨lost, -⟩
      · exact Or.inl (kept.symm.trans found)
      · cases lost.symm.trans found

/-- A workspace becomes urgent, and one that is not on the bar is destroyed. -/
def distantRun : List Input :=
  [.snapshot sampleSnapshot, .event (.window (.urgent "cd")), .snapshot sampleSnapshot,
    .event (.workspace (.destroyed (some 9) "9"))]

theorem areAddressed_distantRun : AreAddressed distantRun := by
  have addresses : IsAddress "0xcd" ∧ IsAddress "cd" ∧ IsAddress "0xcd" :=
    ⟨isAddress_reported, isAddress_plain, isAddress_reported⟩
  simpa [AreAddressed, distantRun, sampleSnapshot, Input.addresses, WindowChange.address?] using
    addresses

theorem undisturbed_tick_distantRun :
    let before := (run {} distantRun).model
    AreAddressed distantRun ∧ sampleSnapshot.IsAddressed ∧
      (sampleSnapshot.workspaces.map ReportedWorkspace.id).Nodup ∧
      (run {} distantRun).backlog = { workspaces := [.destroyed (some 9) "9"] } ∧
      (∀ key workspace, before.workspaces.get? key = some workspace →
        workspace.id ≠ some 9 ∧ ∀ name ∈ ["9", shownName "9"],
          workspace.name ≠ shownName name ∧ workspace.reference ≠ workspaceReference name) ∧
      { id := 1, name := "1", windows := 1 } ∈ sampleSnapshot.workspaces ∧
      (Bar.ofConfig {}).takesReport { id := 1, name := "1", windows := 1 } = true ∧
      ∃ workspace after, before.workspaces.get? 1 = some workspace ∧ workspace.id = some 1 ∧
        workspace.flags.urgent = true ∧
        ((run {} distantRun).tick sampleSnapshot).model.workspaces.get? 1 = some after ∧
        after.key = workspace.key ∧ after.id = workspace.id ∧
        after.flags.urgent = (workspace.flags.urgent && !after.flags.active) ∧
        ∀ address text, workspace.windows.get? address = some text →
          after.windows.get? address = some text ∨
            before.Draws (Bar.ofConfig {}) sampleSnapshot address := by
  intro before
  have announced : (run {} distantRun).backlog =
      { workspaces := [.destroyed (some 9) "9"] } := by decide
  have unrelated : ∀ key workspace, before.workspaces.get? key = some workspace →
      workspace.id ≠ some 9 ∧ ∀ name ∈ ["9", shownName "9"],
        workspace.name ≠ shownName name ∧ workspace.reference ≠ workspaceReference name := by
    have all : ∀ workspace ∈ before.workspaces.values,
        workspace.id ≠ some 9 ∧ ∀ name ∈ ["9", shownName "9"],
          workspace.name ≠ shownName name ∧
            workspace.reference ≠ workspaceReference name := by decide
    exact fun key workspace present => all workspace (SortedMap.mem_values_iff.mpr ⟨key, present⟩)
  have member : { id := 1, name := "1", windows := 1 } ∈ sampleSnapshot.workspaces :=
    List.mem_singleton.mpr rfl
  have found : (before.workspaces.get? 1).map (fun workspace =>
      (workspace.id, workspace.flags.urgent)) = some (some 1, true) := by decide
  obtain ⟨workspace, present, same⟩ := Option.map_eq_some_iff.mp found
  obtain ⟨reported, urgent⟩ := Prod.mk.inj same
  obtain ⟨after, afterPresent, keyed, itsOwn, stillUrgent, kept, -⟩ :=
    undisturbed_tick {} areAddressed_distantRun isAddressed_sampleSnapshot (by decide)
      (Or.inl rfl) announced unrelated present member reported (by decide)
  exact ⟨areAddressed_distantRun, isAddressed_sampleSnapshot, by decide, announced, unrelated,
    member, by decide, workspace, after, present, reported, urgent, afterPresent, keyed, itsOwn,
    stillUrgent, kept⟩

/-- A report in which a window is on a workspace that comes onto the bar. -/
def joiningSnapshot : Snapshot :=
  { workspaces := [{ id := 1, name := "1" }, { id := 2, name := "2", windows := 1 }]
    windows := [{ address := "0xcd", windowClass := "term", workspace := ⟨2, "2"⟩ }] }

/-- A report of one workspace that has the name of a special one. -/
def mailSnapshot : Snapshot := { workspaces := [{ id := 1, name := "mail" }] }

/-- A special workspace is destroyed that is not on the bar. -/
def namesakeRun : List Input :=
  [.snapshot mailSnapshot, .event (.workspace (.destroyed (some (-98)) "special:mail"))]

/-- A workspace loses a window to one that comes onto the bar in the same tick, and goes itself when
a special one with its name is destroyed. -/
theorem not_undisturbed_joining :
    ((run {} distantRun).backlog = { workspaces := [.destroyed (some 9) "9"] } ∧
      (joiningSnapshot.workspaces.map ReportedWorkspace.id).Nodup ∧
      { id := 1, name := "1" } ∈ joiningSnapshot.workspaces ∧
      (Bar.ofConfig {}).takesReport { id := 1, name := "1" } = true ∧
      (run {} distantRun).model.workspaces.values.map
        (fun workspace => (workspace.id, workspace.name)) = [(some 1, "1")] ∧
      (run {} distantRun).model.textOn? 1 "cd" = some "?" ∧
      ((run {} distantRun).tick joiningSnapshot).model.textOn? 1 "cd" = none) ∧
    (run {} namesakeRun).backlog =
        { workspaces := [.destroyed (some (-98)) "special:mail"] } ∧
      (Bar.ofConfig {}).takesReport { id := 1, name := "mail" } = true ∧
      (run {} namesakeRun).model.workspaces.values.map
        (fun workspace => (workspace.id, workspace.name)) = [(some 1, "mail")] ∧
      ((run {} namesakeRun).tick mailSnapshot).model.workspaces.values = [] := by
  decide

end Tracker

end Deskbar
