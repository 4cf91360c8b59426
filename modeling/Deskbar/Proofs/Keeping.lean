/-
This file shows that a window that is shown does not get lost in a tick. As long as the compositor
lists it and nobody closes it, it is on a workspace or waits for one when the tick is over, whatever
happens to workspaces and wherever it is moved. What carries this through is that there is something
to show for the window all the time: a workspace takes in every such window, and leaves out one
without class and title or without a text.

A class and a title come from the snapshot or from the changes that wait. A window that is left out
under one of these has no owner afterwards, and that is the only way in which it can get lost.
-/

import Deskbar.Proofs.Delivery
import Deskbar.Proofs.Effect

namespace Deskbar

/-! ### Something to show -/

/-- Whether there is something to show for a window with a class and a title. -/
def Rewriter.shows (rewriter : Rewriter) (windowClass title : String) : Bool :=
  !(windowClass.isEmpty && (!rewriter.readsTitle || title.isEmpty)) &&
    !(rewriter.windowText windowClass title).isEmpty

/-- The classes and titles under which a window may come to wait in a tick: those that it is
opened with, and its class then with every title that it gets. -/
inductive Announces (snapshot : Snapshot) (changes : List WindowChange) (address : String) :
    String → String → Prop where
  | opened {other target windowClass title : String}
      (listed : .opened other target windowClass title ∈ changes)
      (itsOwn : plainAddress other = address) :
    Announces snapshot changes address windowClass title
  | retitled {other windowClass former title : String} {announced : Option String}
      (before : Announces snapshot changes address windowClass former)
      (listed : .retitled other announced ∈ changes) (itsOwn : plainAddress other = address)
      (replaced : announced.or ((snapshot.window? address).map ReportedWindow.title) =
        some title) :
    Announces snapshot changes address windowClass title

/-- There is something to show for a window under every class and title that a snapshot and
changes give it. -/
structure Showable (rewriter : Rewriter) (snapshot : Snapshot) (changes : List WindowChange)
    (address : String) : Prop where
  reported : ∀ report ∈ snapshot.windows, plainAddress report.address = address →
    rewriter.shows report.windowClass report.title = true
  announced : ∀ windowClass title, Announces snapshot changes address windowClass title →
    rewriter.shows windowClass title = true
  retitled : ∀ other title report, .retitled other title ∈ changes →
    plainAddress other = address → snapshot.window? address = some report →
    rewriter.windowText report.windowClass (title.getD report.title) ≠ ""

theorem Window.isLeftOut_ofIdentity (rewriter : Rewriter)
    (workspace address windowClass title : String) :
    (ofIdentity workspace address windowClass title).isLeftOut rewriter =
      !rewriter.shows windowClass title := by
  rw [Rewriter.shows, Bool.not_and, Bool.not_not, Bool.not_not]
  rfl

/-- There is something to show for a window, and if its text is not known yet its class and title
were announced. -/
structure Window.Lasts (rewriter : Rewriter) (announced : String → String → Prop)
    (window : Window) : Prop where
  shown : window.isLeftOut rewriter = false
  announced : ∀ windowClass title, window.appearance = .identity windowClass title →
    announced windowClass title

/-- A window is somewhere, and there is something to show for it. -/
def Place.Lasts (rewriter : Rewriter) (announced : String → String → Prop) : Place → Prop
  | .nowhere => False
  | .waiting window => window.Lasts rewriter announced
  | .shown _ text => text ≠ ""

section Lasting

variable {rewriter : Rewriter} {announced : String → String → Prop}

theorem Window.lasts_ofText {text : String} (visible : text ≠ "") (workspace address : String) :
    (ofText workspace address text).Lasts rewriter announced where
  shown := by
    show (false || text.isEmpty) = false
    rw [Bool.false_or, Bool.eq_false_iff, ne_eq, String.isEmpty_iff]
    exact visible
  announced := fun _ _ known => by cases known

theorem Window.lasts_ofIdentity {windowClass title : String} (workspace address : String)
    (shows : rewriter.shows windowClass title = true) (known : announced windowClass title) :
    (ofIdentity workspace address windowClass title).Lasts rewriter announced where
  shown := by rw [isLeftOut_ofIdentity, shows]; rfl
  announced := fun _ _ same => by
    obtain ⟨rfl, rfl⟩ := Window.Appearance.identity.inj same
    exact known

/-- What there is to show for a window hangs on its appearance alone. -/
theorem Window.Lasts.of_appearance {first second : Window}
    (lasts : first.Lasts rewriter announced) (same : second.appearance = first.appearance) :
    second.Lasts rewriter announced where
  shown := by
    rw [isLeftOut, isBlank, text, same]
    exact lasts.shown
  announced := by
    rw [same]
    exact lasts.announced

theorem Place.lasts_placeOn {window : Window} (shown : window.isLeftOut rewriter = false)
    (key : Nat) : (window.placeOn rewriter key).Lasts rewriter announced := by
  have text : ¬(window.text rewriter).isEmpty = true := by
    rw [Window.isLeftOut, Bool.or_eq_false_iff] at shown
    exact Bool.eq_false_iff.mp shown.2
  rw [Window.placeOn, shown]
  exact fun empty => text (String.isEmpty_iff.mpr empty)

theorem Place.Lasts.told {before after : Place} (lasts : before.Lasts rewriter announced)
    (told : before.Told after) : after.Lasts rewriter announced := by
  cases told with
  | stays => exact lasts
  | told window active => exact lasts.of_appearance rfl

/-- A window that is sent to another workspace keeps what there is to show for it. -/
theorem Place.Lasts.exists_sent? {place : Place} (lasts : place.Lasts rewriter announced)
    (address target : String) :
    ∃ window : Window, place.sent? address target = some window ∧
      window.Lasts rewriter announced := by
  cases place with
  | nowhere => cases lasts
  | waiting window =>
    refine ⟨_, rfl, lasts.of_appearance ?_⟩
    rw [Window.sendTo]
  | shown key text => exact ⟨_, rfl, Window.lasts_ofText lasts ..⟩

end Lasting

namespace Model

/-- A window is somewhere in a model, and there is something to show for it. -/
def Keeps (bar : Bar) (snapshot : Snapshot) (changes : List WindowChange) (address : String)
    (model : Model) : Prop :=
  ∃ place : Place, model.Locates address place ∧
    place.Lasts bar.rewriter (Announces snapshot changes address)

theorem Keeps.knows {model : Model} {bar : Bar} {snapshot : Snapshot}
    {changes : List WindowChange} {address : String}
    (kept : model.Keeps bar snapshot changes address) : model.Knows address := by
  obtain ⟨place, located, lasts⟩ := kept
  cases place with
  | nowhere => cases lasts
  | waiting window => exact Or.inr ⟨window, located.orphan⟩
  | shown key text => exact Or.inl ⟨key, text, (located.text key).trans (if_pos rfl)⟩

namespace Keeps

variable {model : Model} {bar : Bar} {snapshot : Snapshot} {changes : List WindowChange}
  {address : String}

theorem of_holding {next : Model} (kept : model.Keeps bar snapshot changes address)
    (same : next.holding address = model.holding address) :
    next.Keeps bar snapshot changes address := by
  obtain ⟨place, located, lasts⟩ := kept
  exact ⟨place, located.of_holding same, lasts⟩

theorem of_told {next : Model} (kept : model.Keeps bar snapshot changes address)
    (told : ∀ place : Place, model.Locates address place →
      ∃ after : Place, next.Locates address after ∧ place.Told after) :
    next.Keeps bar snapshot changes address := by
  obtain ⟨place, located, lasts⟩ := kept
  obtain ⟨after, here, same⟩ := told place located
  exact ⟨after, here, lasts.told same⟩

/-! ### Workspaces -/

theorem claim (kept : model.Keeps bar snapshot changes address) (owned : model.Owned) (key : Nat) :
    (model.claim bar key).Keeps bar snapshot changes address := by
  cases present : model.workspaces.get? key with
  | none =>
    rw [Model.claim, present]
    exact kept
  | some workspace =>
    obtain ⟨place, located, lasts⟩ := kept
    obtain ⟨next, here, claimed⟩ := exists_locates_claim owned bar present located
    refine ⟨next, here, ?_⟩
    rcases claimed with rfl | ⟨window, rfl, -, rfl⟩
    · exact lasts
    · exact Place.lasts_placeOn lasts.shown key

theorem ensure (kept : model.Keeps bar snapshot changes address) (sound : model.Sound)
    (addressed : snapshot.IsAddressed)
    (showable : Showable bar.rewriter snapshot changes address) (report : ReportedWorkspace) :
    (model.ensure bar snapshot report).Keeps bar snapshot changes address := by
  obtain ⟨place, located, lasts⟩ := kept
  obtain ⟨next, here, rfl | ⟨key, workspace, -, -, -, enters⟩⟩ :=
    exists_locates_ensure sound addressed bar report located
  · exact ⟨next, here, lasts⟩
  · refine ⟨next, here, ?_⟩
    cases enters with
    | claimed waits => exact Place.lasts_placeOn lasts.shown key
    | gathered _ listed itsOwn counted joins =>
      refine Place.lasts_placeOn ?_ key
      rw [Window.isLeftOut_ofIdentity, showable.reported _ listed itsOwn]
      rfl

/-- A window waits when its workspace is removed, since the compositor lists it. -/
theorem remove (kept : model.Keeps bar snapshot changes address) (owned : model.Owned)
    {report : ReportedWindow} (listed : snapshot.window? address = some report) (key : Nat) :
    (model.remove snapshot key).Keeps bar snapshot changes address := by
  obtain ⟨place, located, lasts⟩ := kept
  obtain ⟨next, here, ⟨rfl, -⟩ | ⟨text, rfl, rfl⟩⟩ :=
    exists_locates_remove owned snapshot key located
  · exact ⟨next, here, lasts⟩
  · refine ⟨_, here, ?_⟩
    have waits : (Window.ofText report.workspace.name address text).Lasts bar.rewriter
        (Announces snapshot changes address) := Window.lasts_ofText lasts _ _
    rw [Snapshot.leftBehind?, listed]
    exact waits.of_appearance rfl

/-- A workspace that is replaced by one with the same windows keeps them. -/
theorem replace (kept : model.Keeps bar snapshot changes address) {key : Nat}
    {workspace replacement : Workspace} (present : model.workspaces.get? key = some workspace)
    (same : replacement.windows = workspace.windows) :
    (model.update key fun _ => replacement).Keeps bar snapshot changes address :=
  kept.of_holding (holding_update fun other found => by
    rw [same, Option.some.inj (found.symm.trans present)])

/-- No step of the work on workspaces loses a window that the compositor lists. -/
theorem stepwise (addressed : snapshot.IsAddressed)
    (showable : Showable bar.rewriter snapshot changes address) {report : ReportedWindow}
    (listed : snapshot.window? address = some report) :
    Stepwise bar snapshot fun before after =>
      before.Sound ∧ before.Keeps bar snapshot changes address →
        after.Sound ∧ after.Keeps bar snapshot changes address where
  refl _ := id
  trans earlier later kept := later (earlier kept)
  replace present keyed same windows focused kept :=
    ⟨(Sound.stepwise addressed bar).replace present keyed same windows focused kept.1,
      kept.2.replace present windows⟩
  claim model key kept :=
    ⟨(Sound.stepwise addressed bar).claim model key kept.1, kept.2.claim kept.1.owned key⟩
  remove _ key kept := ⟨kept.1.remove snapshot key, kept.2.remove kept.1.owned listed key⟩
  ensure _ report kept :=
    ⟨kept.1.ensure addressed bar report, kept.2.ensure kept.1 addressed showable report⟩
  declare _ raw kept :=
    ⟨kept.1.addDeclared bar raw,
      kept.2.of_holding (holding_addDeclared kept.1.identified bar raw address)⟩

/-! ### Windows -/

/-- A window with something to show is somewhere after it was given to a workspace. -/
theorem lasts_destination {announced : String → String → Prop} {window : Window}
    (lasts : window.Lasts bar.rewriter announced) :
    (model.destination bar window).Lasts bar.rewriter announced := by
  rw [destination]
  split
  · exact Place.lasts_placeOn lasts.shown _
  · exact lasts.of_appearance rfl

/-- A window has something to show under every title that it gets. -/
theorem lasts_retitled {place : Place}
    (lasts : place.Lasts bar.rewriter (Announces snapshot changes address))
    (showable : Showable bar.rewriter snapshot changes address) {other : String}
    {title : Option String} (member : .retitled other title ∈ changes)
    (itsOwn : plainAddress other = address) :
    (place.retitled bar.rewriter (snapshot.window? address) title).Lasts bar.rewriter
      (Announces snapshot changes address) := by
  cases place with
  | nowhere => cases lasts
  | shown key text =>
    rw [Place.retitled]
    cases listed : snapshot.window? address with
    | none => exact lasts
    | some report => exact showable.retitled other title report member itsOwn listed
  | waiting window =>
    rw [Place.retitled]
    cases found : title.or ((snapshot.window? address).map ReportedWindow.title) with
    | none => exact lasts
    | some replacement =>
      rw [Option.bind_some, Window.retitle?]
      split
      · next windowClass former appearance =>
        have known : Announces snapshot changes address windowClass replacement :=
          .retitled (lasts.announced windowClass former appearance) member itsOwn found
        have shown := Window.lasts_ofIdentity window.workspace window.address
          (showable.announced windowClass replacement known) known
        exact shown.of_appearance rfl
      · exact lasts

/-- No change leads a window away from all owners that it does not close. -/
theorem lasts_leads {place : Place}
    (lasts : place.Lasts bar.rewriter (Announces snapshot changes address))
    (showable : Showable bar.rewriter snapshot changes address) {change : WindowChange}
    (member : change ∈ changes)
    (stillOpen : ∀ closed, change = .closed closed → plainAddress closed ≠ address) :
    (model.leads bar snapshot address place change).Lasts bar.rewriter
      (Announces snapshot changes address) := by
  rw [leads]
  split
  · next touched =>
    cases change with
    | opened other target windowClass title =>
      have itsOwn : plainAddress other = address := of_decide_eq_true touched
      have known : Announces snapshot changes address windowClass title := .opened member itsOwn
      rw [takes]
      split
      · exact lasts
      · exact lasts_destination
          (Window.lasts_ofIdentity target other (showable.announced _ _ known) known)
    | closed other => exact absurd (of_decide_eq_true touched) (stillOpen other rfl)
    | moved other target =>
      obtain ⟨window, sent, still⟩ := lasts.exists_sent? (plainAddress other) target
      rw [takes, movedWindow?, sent]
      exact lasts_destination still
    | retitled other title =>
      obtain rfl : plainAddress other = address := of_decide_eq_true touched
      exact lasts_retitled lasts showable member rfl
    | urgent other => exact lasts
    | focused other => exact lasts
  · cases change with
    | focused focused =>
      cases place with
      | waiting window => exact lasts.of_appearance rfl
      | _ => exact lasts
    | _ => exact lasts

/-- No change of a window loses one that it does not close. -/
theorem applyWindowChange (kept : model.Keeps bar snapshot changes address) (sound : model.Sound)
    (showable : Showable bar.rewriter snapshot changes address) {change : WindowChange}
    (member : change ∈ changes) (addressed : change.IsAddressed)
    (stillOpen : ∀ closed, change = .closed closed → plainAddress closed ≠ address) :
    (model.applyWindowChange bar snapshot change).Keeps bar snapshot changes address := by
  obtain ⟨place, located, lasts⟩ := kept
  exact ⟨_, locates_applyWindowChange sound bar snapshot addressed located,
    lasts_leads lasts showable member stillOpen⟩

theorem applyWindowChanges (kept : model.Keeps bar snapshot changes address)
    (sound : model.Sound) (showable : Showable bar.rewriter snapshot changes address)
    (addressed : ∀ change ∈ changes, change.IsAddressed)
    (stillOpen : ∀ closed, .closed closed ∈ changes → plainAddress closed ≠ address) :
    (model.applyWindowChanges bar snapshot changes).Keeps bar snapshot changes address := by
  refine (List.foldlRecOn changes (Model.applyWindowChange bar snapshot)
    (motive := fun next => Sound next ∧ next.Keeps bar snapshot changes address)
    ⟨sound, kept⟩ ?_).2
  rintro next ⟨nextSound, still⟩ change member
  refine ⟨nextSound.applyWindowChange bar snapshot (addressed change member), ?_⟩
  exact still.applyWindowChange nextSound showable member (addressed change member)
    fun closed same => stillOpen closed (same ▸ member)

end Keeps

/-! ### Ticks -/

/-- A tick that does not start over loses no window that is shown, listed and not closed. -/
theorem keeps_catchUp {model : Model} (sound : model.Sound) {bar : Bar} {snapshot : Snapshot}
    (snapshotAddressed : snapshot.IsAddressed) {backlog : Backlog}
    (addressed : ∀ change ∈ backlog.windows, change.IsAddressed) {key : Nat}
    {address text : String} (shown : model.textOn? key address = some text) (visible : text ≠ "")
    (listed : ∃ report ∈ snapshot.windows, plainAddress report.address = address)
    (stillOpen : ∀ closed, .closed closed ∈ backlog.windows → plainAddress closed ≠ address)
    (showable : Showable bar.rewriter snapshot backlog.windows address) :
    (Tracker.catchUp bar snapshot backlog model).Keeps bar snapshot backlog.windows address := by
  have located := (sound.owned.shown shown).1
  obtain ⟨report, found⟩ : ∃ report, snapshot.window? address = some report := by
    obtain ⟨report, member, itsOwn⟩ := listed
    refine Option.isSome_iff_exists.mp (List.find?_isSome.mpr ⟨report, member, ?_⟩)
    exact decide_eq_true itsOwn
  have kept : model.Keeps bar snapshot backlog.windows address := ⟨_, located, visible⟩
  -- A window outlasts all that a tick does before it comes to the changes of windows.
  obtain ⟨readySound, ready⟩ := (Keeps.stepwise snapshotAddressed showable
    found).beforeWindowChanges backlog.workspaces model ⟨sound, kept⟩
  refine (ready.applyWindowChanges readySound showable addressed stillOpen).of_holding ?_
  -- A window that is shown when the tick begins is not one of those that grow older.
  exact holding_growOrphans_of_not_mem bar model.orphans.keys_nodup
    (SortedMap.get?_eq_none_iff.mp located.orphan) _

end Model

namespace Tracker

/-- After every run with addresses as the compositor writes them, a tick that does not start over
keeps every window that is shown with a text, is listed by the snapshot and is closed by no change
that waits, as long as there is something to show for it under every class and title that it is
given. It is then on a workspace or waits for one. -/
theorem kept_tick [Pattern.Engine] (config : BarConfig) {inputs : List Input}
    (addressed : AreAddressed inputs)
    {snapshot : Snapshot} (snapshotAddressed : snapshot.IsAddressed)
    (carriesOn : (run config inputs).startsOver = false) {key : Nat} {address text : String}
    (shown : (run config inputs).model.textOn? key address = some text) (visible : text ≠ "")
    (listed : ∃ report ∈ snapshot.windows, plainAddress report.address = address)
    (stillOpen : ∀ closed, .closed closed ∈ (run config inputs).backlog.windows →
      plainAddress closed ≠ address)
    (showable : Showable (Bar.ofConfig config).rewriter snapshot
      (run config inputs).backlog.windows address) :
    ((run config inputs).tick snapshot).model.Knows address := by
  obtain ⟨sound, waiting⟩ := sound_run config addressed
  rw [← bar_run config inputs] at showable
  have caughtUp := Model.keeps_catchUp sound snapshotAddressed waiting shown visible listed
    stillOpen showable
  show ((run config inputs).nextModel snapshot).Knows address
  rw [nextModel_of_not_startsOver carriesOn]
  exact (caughtUp.of_told fun _ located => Model.exists_locates_observe _ snapshot located).knows

/-- A workspace is destroyed, and its window moves to one that is not on the bar. -/
def evictingRun : List Input :=
  [.snapshot sampleSnapshot, .event (.workspace (.destroyed (some 1) "1")),
    .event (.window (.moved "cd" "5"))]

theorem areAddressed_evictingRun : AreAddressed evictingRun := by
  have addresses : IsAddress "0xcd" ∧ IsAddress "cd" := ⟨isAddress_reported, isAddress_plain⟩
  simpa [AreAddressed, evictingRun, sampleSnapshot, Input.addresses, WindowChange.address?] using
    addresses

theorem kept_tick_evictingRun :
    AreAddressed evictingRun ∧ sampleSnapshot.IsAddressed ∧
      (run {} evictingRun).startsOver = false ∧
      (run {} evictingRun).model.textOn? 1 "cd" = some "?" ∧
      (∃ report ∈ sampleSnapshot.windows, plainAddress report.address = "cd") ∧
      (∀ closed, .closed closed ∈ (run {} evictingRun).backlog.windows →
        plainAddress closed ≠ "cd") ∧
      Showable (Bar.ofConfig {}).rewriter sampleSnapshot (run {} evictingRun).backlog.windows
        "cd" ∧
      ((run {} evictingRun).tick sampleSnapshot).model.Knows "cd" := by
  have waiting : (run {} evictingRun).backlog.windows = [.moved "cd" "5"] := by decide
  have stillOpen : ∀ closed, .closed closed ∈ (run {} evictingRun).backlog.windows →
      plainAddress closed ≠ "cd" := by
    intro closed member
    rw [waiting, List.mem_singleton] at member
    cases member
  have silent : ∀ windowClass title,
      ¬Announces sampleSnapshot [.moved "cd" "5"] "cd" windowClass title := by
    intro windowClass title announced
    induction announced with
    | opened listed => cases List.mem_singleton.mp listed
    | retitled _ _ _ _ unannounced => exact unannounced
  have showable : Showable (Bar.ofConfig {}).rewriter sampleSnapshot
      (run {} evictingRun).backlog.windows "cd" := by
    rw [waiting]
    constructor
    · intro report member _
      rw [List.mem_singleton.mp member]
      decide
    · exact fun windowClass title announced => absurd announced (silent windowClass title)
    · intro other title report member
      cases List.mem_singleton.mp member
  have listed : ∃ report ∈ sampleSnapshot.windows, plainAddress report.address = "cd" :=
    ⟨_, List.mem_singleton.mpr rfl, by decide⟩
  have shown : (run {} evictingRun).model.textOn? 1 "cd" = some "?" := by decide
  exact ⟨areAddressed_evictingRun, isAddressed_sampleSnapshot, by decide, shown, listed, stillOpen,
    showable, kept_tick {} areAddressed_evictingRun isAddressed_sampleSnapshot (by decide) shown
      (by decide) listed stillOpen showable⟩

/-- A report in which the window has neither class nor title and is on a workspace that comes onto
the bar. -/
def namelessSnapshot : Snapshot :=
  { workspaces := [{ id := 1, name := "1" }, { id := 2, name := "2", windows := 1 }]
    windows := [{ address := "0xcd", workspace := ⟨2, "2"⟩ }] }

/-- A workspace that comes onto the bar leaves out a window without class and title, and the window
has no owner any longer although it is listed and was not closed. -/
theorem not_kept_nameless :
    (run {} [.snapshot sampleSnapshot]).startsOver = false ∧
      (run {} [.snapshot sampleSnapshot]).backlog = {} ∧
      (run {} [.snapshot sampleSnapshot]).model.textOn? 1 "cd" = some "?" ∧
      (∃ report ∈ namelessSnapshot.windows, plainAddress report.address = "cd") ∧
      ¬((run {} [.snapshot sampleSnapshot]).tick namelessSnapshot).model.Knows "cd" := by
  have addressed : AreAddressed [.snapshot sampleSnapshot, .snapshot namelessSnapshot] := by
    simpa [AreAddressed, sampleSnapshot, namelessSnapshot, Input.addresses] using
      isAddress_reported
  refine ⟨by decide, by decide, by decide, ⟨_, List.mem_singleton.mpr rfl, by decide⟩, ?_⟩
  have owned := (sound_run {} addressed).1.owned
  show ¬(run {} [.snapshot sampleSnapshot, .snapshot namelessSnapshot]).model.Knows "cd"
  rw [owned.knows_iff]
  decide

end Tracker

end Deskbar
