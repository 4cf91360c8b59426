/-
This file follows a title from its announcement on. A window that is known when its title changes
goes by the new title afterwards: on its workspace at once, and otherwise as soon as a workspace
takes it in, wherever it is moved meanwhile and whatever becomes of its workspaces. This lasts until
the window is opened or gets a title again, also through later snapshots if they report it under
this title.

There are two exceptions. A window that waits with its text made out already, since it has been on a
workspace before, keeps that text. And one that is closed and moves after its title has changed is
taken from the snapshot, which may still have the former title.
-/

import Deskbar.Proofs.Lifetime
import Deskbar.Proofs.Provenance

namespace Deskbar

/-- Whether a change opens or retitles the window with an address. -/
def WindowChange.entitles (address : String) : WindowChange → Bool
  | .opened other _ _ _ => plainAddress other = address
  | .retitled other _ => plainAddress other = address
  | _ => false

/-! ### Windows under a title -/

/-- A window goes by a class and a title, or by the text for them. -/
def Window.Appearance.GoesBy (rewriter : Rewriter) (windowClass title : String) :
    Appearance → Prop
  | .identity found known => found = windowClass ∧ known = title
  | .resolved text => text = rewriter.windowText windowClass title

/-- A window is somewhere and goes by a class and a title there. -/
def Place.GoesBy (rewriter : Rewriter) (windowClass title : String) : Place → Prop
  | .nowhere => False
  | .waiting window => window.appearance.GoesBy rewriter windowClass title
  | .shown _ text => text = rewriter.windowText windowClass title

section GoesBy

variable {rewriter : Rewriter} {windowClass title : String}

theorem Window.text_of_goesBy {window : Window}
    (goesBy : window.appearance.GoesBy rewriter windowClass title) :
    window.text rewriter = rewriter.windowText windowClass title := by
  rw [text]
  cases appearance : window.appearance with
  | identity found known =>
    rw [appearance] at goesBy
    obtain ⟨rfl, rfl⟩ := goesBy
    rfl
  | resolved text =>
    rw [appearance] at goesBy
    exact goesBy

theorem Window.isLeftOut_of_goesBy {window : Window}
    (goesBy : window.appearance.GoesBy rewriter windowClass title)
    (shows : rewriter.shows windowClass title = true) : window.isLeftOut rewriter = false := by
  cases appearance : window.appearance with
  | identity found known =>
    rw [appearance] at goesBy
    obtain ⟨rfl, rfl⟩ := goesBy
    rw [isLeftOut_of_identity rewriter appearance, shows]
    rfl
  | resolved text =>
    rw [Rewriter.shows, Bool.and_eq_true, Bool.not_eq_true', Bool.not_eq_true'] at shows
    rw [isLeftOut, text_of_goesBy goesBy, shows.2, isBlank, appearance]
    rfl

theorem Place.goesBy_placeOn {window : Window}
    (goesBy : window.appearance.GoesBy rewriter windowClass title)
    (shows : rewriter.shows windowClass title = true) (key : Nat) :
    (window.placeOn rewriter key).GoesBy rewriter windowClass title := by
  rw [Window.placeOn, Window.isLeftOut_of_goesBy goesBy shows]
  exact Window.text_of_goesBy goesBy

theorem Place.GoesBy.told {place : Place} (goesBy : place.GoesBy rewriter windowClass title)
    (active : Bool) : (place.told active).GoesBy rewriter windowClass title := by
  cases place <;> exact goesBy

/-- A window that grows older goes by its title still, unless it is forgotten. -/
theorem Place.GoesBy.older {place : Place} (goesBy : place.GoesBy rewriter windowClass title)
    (bar : Bar) :
    (place.older bar).GoesBy rewriter windowClass title ∨ place.older bar = .nowhere := by
  cases place with
  | waiting window =>
    rw [Place.older, Bar.grown?]
    split
    · exact Or.inr rfl
    · exact Or.inl goesBy
  | nowhere => exact Or.inr rfl
  | shown key text => exact Or.inl goesBy

end GoesBy

namespace Model

variable {bar : Bar} {snapshot : Snapshot} {model : Model} {address windowClass title : String}
  {place : Place}

theorem goesBy_destination {window : Window}
    (goesBy : window.appearance.GoesBy bar.rewriter windowClass title)
    (shows : bar.rewriter.shows windowClass title = true) :
    (model.destination bar window).GoesBy bar.rewriter windowClass title := by
  rw [destination]
  split
  · exact Place.goesBy_placeOn goesBy shows _
  · exact goesBy

/-- No change takes its title from a window that it does not open, close or retitle. -/
theorem goesBy_leads (goesBy : place.GoesBy bar.rewriter windowClass title)
    (shows : bar.rewriter.shows windowClass title = true) {change : WindowChange}
    (stillOpen : ∀ closed, change = .closed closed → plainAddress closed ≠ address)
    (kept : change.entitles address = false) :
    (model.leads bar snapshot address place change).GoesBy bar.rewriter windowClass title := by
  rw [leads]
  split
  · next touched =>
    cases change with
    | opened other target found known => cases touched.symm.trans kept
    | closed other => exact absurd (of_decide_eq_true touched) (stillOpen other rfl)
    | moved other target =>
      rw [takes, movedWindow?]
      cases place with
      | nowhere => cases goesBy
      | waiting window =>
        have sent : (window.sendTo target).appearance.GoesBy bar.rewriter windowClass title :=
          goesBy
        exact goesBy_destination sent shows
      | shown key text =>
        have sent : (Window.ofText target (plainAddress other) text).appearance.GoesBy bar.rewriter
          windowClass title := goesBy
        exact goesBy_destination sent shows
    | retitled other known => cases touched.symm.trans kept
    | urgent other => exact goesBy
    | focused other => exact goesBy
  · cases change with
    | focused focused => exact goesBy.told _
    | _ => exact goesBy

/-- A change that does not open a window which is nowhere brings it back only with a move, from the
snapshot. -/
theorem leads_nowhere
    (reported : ∀ report, snapshot.window? address = some report → report.windowClass = windowClass)
    (shows : bar.rewriter.shows windowClass title = true) {change : WindowChange}
    (kept : change.entitles address = false)
    (current : ∀ moved target, change = .moved moved target → plainAddress moved = address →
      ∀ report, snapshot.window? address = some report → report.title = title) :
    (model.leads bar snapshot address .nowhere change).GoesBy bar.rewriter windowClass title ∨
      model.leads bar snapshot address .nowhere change = .nowhere := by
  rw [leads]
  split
  · next touched =>
    cases change with
    | opened other target found known => cases touched.symm.trans kept
    | retitled other known => cases touched.symm.trans kept
    | moved other target =>
      obtain rfl : plainAddress other = address := of_decide_eq_true touched
      rw [takes, movedWindow?, Place.sent?, Option.none_or]
      cases found : snapshot.window? (plainAddress other) with
      | none => exact Or.inr rfl
      | some report =>
        have goesBy : (Window.ofIdentity target (plainAddress other) report.windowClass
            report.title).appearance.GoesBy bar.rewriter windowClass title :=
          ⟨reported report found, current other target rfl rfl report found⟩
        exact Or.inl (goesBy_destination goesBy shows)
    | _ => exact Or.inr rfl
  · cases change <;> exact Or.inr rfl

/-- The title of a window lasts through changes that neither open nor retitle the window. If one of
them closes it and a later one moves it, the title has to be in the snapshot by then. -/
theorem exists_goesBy_applyWindowChanges {changes : List WindowChange} (sound : model.Sound)
    (addressed : ∀ change ∈ changes, change.IsAddressed)
    (reported : ∀ report, snapshot.window? address = some report → report.windowClass = windowClass)
    (shows : bar.rewriter.shows windowClass title = true)
    (kept : ∀ change ∈ changes, change.entitles address = false)
    (reappears : changes.Pairwise fun first second =>
      ∀ closed moved target, first = .closed closed → plainAddress closed = address →
        second = .moved moved target → plainAddress moved = address →
          ∀ report, snapshot.window? address = some report → report.title = title)
    (located : model.Locates address place)
    (either : place.GoesBy bar.rewriter windowClass title ∨ place = .nowhere ∧
      ∀ moved target, .moved moved target ∈ changes → plainAddress moved = address →
        ∀ report, snapshot.window? address = some report → report.title = title) :
    ∃ next : Place, (model.applyWindowChanges bar snapshot changes).Locates address next ∧
      (next.GoesBy bar.rewriter windowClass title ∨ next = .nowhere) := by
  induction changes generalizing model place with
  | nil => exact ⟨place, located, either.imp_right And.left⟩
  | cons change rest inductionHypothesis =>
    have changeAddressed := addressed change List.mem_cons_self
    have changeKept := kept change List.mem_cons_self
    obtain ⟨first, restReappears⟩ := List.pairwise_cons.mp reappears
    refine inductionHypothesis (sound.applyWindowChange bar snapshot changeAddressed)
      (fun other member => addressed other (List.mem_cons_of_mem _ member))
      (fun other member => kept other (List.mem_cons_of_mem _ member)) restReappears
      (locates_applyWindowChange sound bar snapshot changeAddressed located) ?_
    rcases either with goesBy | ⟨rfl, current⟩
    · by_cases closes : ∃ closed, change = .closed closed ∧ plainAddress closed = address
      · obtain ⟨closed, rfl, rfl⟩ := closes
        have touched : (WindowChange.closed closed).touches (plainAddress closed) = true :=
          decide_eq_true rfl
        refine Or.inr ⟨?_, fun moved target member itsOwn =>
          first _ member closed moved target rfl rfl rfl itsOwn⟩
        rw [leads, if_pos touched, takes]
      · exact Or.inl (goesBy_leads goesBy shows
          (fun closed same itsOwn => closes ⟨closed, same, itsOwn⟩) changeKept)
    · refine (leads_nowhere reported shows changeKept fun moved target same =>
        current moved target (same ▸ List.mem_cons_self)).imp_right fun nowhere => ⟨nowhere, ?_⟩
      exact fun moved target member => current moved target (List.mem_cons_of_mem _ member)

/-- A window that is known goes by its class and a new title once the title has been announced,
on a workspace if the snapshot has its class and among those that wait if its text is not made
out yet. -/
theorem goesBy_retitled {report : ReportedWindow} (known : place ≠ .nowhere)
    (waiting : ∀ window, place = .waiting window →
      (∀ found former, window.appearance = .identity found former → found = windowClass) ∧
        ∀ text, window.appearance = .resolved text →
          text = bar.rewriter.windowText windowClass title)
    (reported : report.windowClass = windowClass) :
    (place.retitled bar.rewriter (some report) (some title)).GoesBy bar.rewriter windowClass
      title := by
  cases place with
  | nowhere => exact absurd rfl known
  | shown key text =>
    rw [← reported]
    rfl
  | waiting window =>
    obtain ⟨classed, unresolved⟩ := waiting window rfl
    rw [Place.retitled, Option.some_or, Option.bind_some, Window.retitle?]
    cases appearance : window.appearance with
    | identity found former => exact ⟨classed found former appearance, rfl⟩
    | resolved text =>
      show window.appearance.GoesBy bar.rewriter windowClass title
      rw [appearance]
      exact unresolved text appearance

end Model

/-! ### Runs -/

namespace Tracker

/-- Whether an input gives the window with an address no class but one. -/
def Input.KeepsClass (address windowClass : String) : Input → Prop
  | .event (.window (.opened other _ found _)) =>
    plainAddress other = address → found = windowClass
  | .event _ => True
  | .snapshot reports =>
    ∀ report ∈ reports.windows, plainAddress report.address = address →
      report.windowClass = windowClass

/-- Whether an input neither opens nor retitles the window with an address, and reports it under no
class and title but one. -/
def Input.KeepsTitle (address windowClass title : String) : Input → Prop
  | .event (.window change) => change.entitles address = false
  | .event _ => True
  | .snapshot reports =>
    ∀ report ∈ reports.windows, plainAddress report.address = address →
      report.windowClass = windowClass ∧ report.title = title

/-- The window with an address has a class while its text is not made out. -/
def Classed (address windowClass other : String) (appearance : Window.Appearance) : Prop :=
  bareAddress other = address →
    ∀ found title, appearance = .identity found title → found = windowClass

/-- The window with an address goes by a class and a title. -/
def Titled (rewriter : Rewriter) (address windowClass title other : String)
    (appearance : Window.Appearance) : Prop :=
  bareAddress other = address → appearance.GoesBy rewriter windowClass title

theorem respects_classed (rewriter : Rewriter) (address windowClass : String) :
    rewriter.Respects (Classed address windowClass) where
  plain classed itsOwn := classed (bareAddress_plainAddress _ ▸ itsOwn)
  resolved _ _ _ _ _ known := by cases known

theorem respects_titled (rewriter : Rewriter) (address windowClass title : String) :
    rewriter.Respects (Titled rewriter address windowClass title) where
  plain titled itsOwn := titled (bareAddress_plainAddress _ ▸ itsOwn)
  resolved _ titled itsOwn := Window.text_of_goesBy (titled itsOwn)

section Runs

variable {config : BarConfig} {inputs : List Input} {address windowClass title : String}

/-- A change gives the window with an address its own class. -/
theorem brings_classed (rewriter : Rewriter) {change : WindowChange}
    (addressed : change.IsAddressed)
    (keeps : (Input.event (.window change)).KeepsClass address windowClass) (snapshot : Snapshot)
    (model : Model) : model.Brings (Classed address windowClass) rewriter snapshot change := by
  cases change with
  | opened other target found known =>
    intro itsOwn _ _ same
    rw [bareAddress_plainAddress, (addressed other rfl).bareAddress_eq] at itsOwn
    rw [← (Window.Appearance.identity.inj same).1]
    exact keeps itsOwn
  | retitled other known =>
    constructor
    · intro _ _ _ _ _ _ _ same
      cases same
    · intro found former replaced classed _ itsOwn _ _ same
      rw [← (Window.Appearance.identity.inj same).1]
      exact classed itsOwn found former rfl
  | _ => trivial

theorem allowed_classed {snapshot : Snapshot} (addressed : snapshot.IsAddressed)
    (keeps : (Input.snapshot snapshot).KeepsClass address windowClass) :
    snapshot.Allowed (Classed address windowClass) := by
  intro report member itsOwn _ _ same
  rw [bareAddress_plainAddress, (addressed report member).bareAddress_eq] at itsOwn
  rw [← (Window.Appearance.identity.inj same).1]
  exact keeps report member itsOwn

/-- A change that neither opens nor retitles a window brings nothing for it. -/
theorem brings_titled (rewriter : Rewriter) {change : WindowChange}
    (addressed : change.IsAddressed) (kept : change.entitles address = false) (snapshot : Snapshot)
    (model : Model) :
    model.Brings (Titled rewriter address windowClass title) rewriter snapshot change := by
  cases change with
  | opened other target found known =>
    intro itsOwn
    rw [bareAddress_plainAddress, (addressed other rfl).bareAddress_eq] at itsOwn
    exact absurd itsOwn (of_decide_eq_false kept)
  | retitled other known =>
    have elsewhere : bareAddress (plainAddress other) ≠ address := by
      rw [bareAddress_plainAddress, (addressed other rfl).bareAddress_eq]
      exact of_decide_eq_false kept
    exact ⟨fun _ _ _ _ itsOwn => absurd itsOwn elsewhere,
      fun _ _ _ _ _ itsOwn => absurd itsOwn elsewhere⟩
  | _ => trivial

theorem allowed_titled {snapshot : Snapshot} (rewriter : Rewriter)
    (addressed : snapshot.IsAddressed)
    (keeps : (Input.snapshot snapshot).KeepsTitle address windowClass title) :
    snapshot.Allowed (Titled rewriter address windowClass title) := by
  intro report member itsOwn
  rw [bareAddress_plainAddress, (addressed report member).bareAddress_eq] at itsOwn
  exact keeps report member itsOwn

theorem AreAddressed.change (addressed : AreAddressed inputs) {change : WindowChange}
    (announced : .event (.window change) ∈ inputs) : change.IsAddressed :=
  fun _ spoken => addressed _ announced _ (Option.mem_toList.mpr spoken)

/-- A window that is given no class but one has that class in the middle of the next tick, while its
text is not made out. -/
theorem classed_midway [Pattern.Engine] (addressed : AreAddressed inputs) {snapshot : Snapshot}
    (snapshotAddressed : snapshot.IsAddressed)
    (keeps : ∀ input ∈ inputs ++ [.snapshot snapshot], input.KeepsClass address windowClass)
    {earlier later : List WindowChange}
    (split : (run config inputs).backlog.windows = earlier ++ later) :
    ((run config inputs).midway snapshot earlier).Looks (Classed address windowClass) := by
  have kept := fun input member => keeps input (List.mem_append_left _ member)
  have looks : (run config inputs).model.Looks (Classed address windowClass) := by
    refine looks_foldl_accept (Model.Looks.cleared Model.empty) (respects_classed _ _ _)
      (fun change => change.IsAddressed ∧
        (Input.event (.window change)).KeepsClass address windowClass)
      (fun harmless => brings_classed _ harmless.1 harmless.2)
      (fun _ member => absurd member List.not_mem_nil) (fun change member => ?_)
      fun reports member => ?_
    · exact ⟨addressed.change member, kept _ member⟩
    · exact allowed_classed (addressed.snapshot member) (kept _ member)
  have reported : (Input.snapshot snapshot).KeepsClass address windowClass :=
    keeps _ (List.mem_append_right _ (List.mem_singleton.mpr rfl))
  refine looks_midway looks (respects_classed _ _ _) (allowed_classed snapshotAddressed reported)
    fun before change after splitAgain => ?_
  have waits : change ∈ (run config inputs).backlog.windows := by
    rw [split, splitAgain]
    exact List.mem_append_left _ (List.mem_append_right _ List.mem_cons_self)
  have announced := announced_of_waiting config waits
  exact brings_classed _ (addressed.change announced) (kept _ announced) snapshot _

/-- In a sound model all there is of a window is at its place. -/
theorem looks_titled {model : Model} (sound : model.Sound) {rewriter : Rewriter} {place : Place}
    (located : model.Locates address place)
    (either : place.GoesBy rewriter windowClass title ∨ place = .nowhere) :
    model.Looks (Titled rewriter address windowClass title) := by
  constructor
  · intro key other text found itsOwn
    obtain ⟨here, plain⟩ := sound.owned.shown found
    obtain rfl : other = address := (bareAddress_of_plain plain).symm.trans itsOwn
    rw [located.unique here] at either
    exact either.resolve_right fun nowhere => by cases nowhere
  · intro other window found
    obtain ⟨here, named, plain⟩ := sound.owned.waiting found
    refine ⟨named, fun itsOwn => ?_⟩
    obtain rfl : other = address := (bareAddress_of_plain plain).symm.trans itsOwn
    rw [located.unique here] at either
    exact either.resolve_right fun nowhere => by cases nowhere

/-- Once the changes of a tick have been carried out, a window goes by the title that was announced
for it when it was known, unless it is nowhere by then. -/
theorem goesBy_midway {tracker : Tracker} (sound : tracker.model.Sound) {snapshot : Snapshot}
    (snapshotAddressed : snapshot.IsAddressed)
    (addressed : ∀ change ∈ tracker.backlog.windows, change.IsAddressed)
    {earlier later : List WindowChange} {other : String} (itsOwn : plainAddress other = address)
    (announced : tracker.backlog.windows = earlier ++ .retitled other (some title) :: later)
    (known : ((tracker.midway snapshot earlier).ownerOf? other).isSome = true)
    (unresolved : ∀ window text,
      (tracker.midway snapshot earlier).orphans.get? address = some window →
        window.appearance = .resolved text →
          text = tracker.bar.rewriter.windowText windowClass title)
    (looks : (tracker.midway snapshot earlier).Looks (Classed address windowClass))
    (listed : (snapshot.window? address).isSome = true)
    (reported : ∀ report, snapshot.window? address = some report → report.windowClass = windowClass)
    (kept : ∀ change ∈ later, change.entitles address = false)
    (reappears : later.Pairwise fun first second =>
      ∀ closed moved target, first = .closed closed → plainAddress closed = address →
        second = .moved moved target → plainAddress moved = address →
          ∀ report, snapshot.window? address = some report → report.title = title)
    (shows : tracker.bar.rewriter.shows windowClass title = true) :
    ∃ next : Place, (tracker.midway snapshot tracker.backlog.windows).Locates address next ∧
      (next.GoesBy tracker.bar.rewriter windowClass title ∨ next = .nowhere) := by
  rw [announced] at addressed
  have otherAddressed : (WindowChange.retitled other (some title)).IsAddressed :=
    addressed _ (List.mem_append_right _ List.mem_cons_self)
  have bare : bareAddress address = address := by
    refine bareAddress_of_plain ?_
    rw [← itsOwn, (otherAddressed other rfl).plainAddress_plainAddress]
  have soundBefore : (tracker.midway snapshot earlier).Sound :=
    sound_midway sound snapshotAddressed fun change member =>
      addressed change (List.mem_append_left _ member)
  obtain ⟨place, located, -⟩ := soundBefore.owned.located address
  rw [Model.ownerOf?, itsOwn, located.owner] at known
  have somewhere : place ≠ .nowhere := by
    rintro rfl
    cases known
  obtain ⟨report, found⟩ := Option.isSome_iff_exists.mp listed
  have touched : (WindowChange.retitled other (some title)).touches address = true :=
    decide_eq_true itsOwn
  have retitled := Model.locates_applyWindowChange soundBefore tracker.bar snapshot otherAddressed
    located
  rw [Model.leads, if_pos touched, Model.takes, itsOwn, found] at retitled
  have goesBy : (place.retitled tracker.bar.rewriter (some report) (some title)).GoesBy
      tracker.bar.rewriter windowClass title := by
    refine Model.goesBy_retitled somewhere (fun window waits => ?_) (reported report found)
    subst waits
    exact ⟨(looks.waiting located.orphan).2 bare, fun text => unresolved window text located.orphan⟩
  have arrived : tracker.midway snapshot tracker.backlog.windows =
      ((tracker.midway snapshot earlier).applyWindowChange tracker.bar snapshot
        (.retitled other (some title))).applyWindowChanges tracker.bar snapshot later := by
    rw [announced, midway, Model.applyWindowChanges, List.foldl_append, List.foldl_cons]
    rfl
  rw [arrived]
  exact Model.exists_goesBy_applyWindowChanges
    (soundBefore.applyWindowChange tracker.bar snapshot otherAddressed)
    (fun change member => addressed change
      (List.mem_append_right _ (List.mem_cons_of_mem _ member)))
    reported shows kept reappears retitled (Or.inl goesBy)

/-- What a window goes by when the changes of a tick have been carried out, it goes by at the end of
the tick. -/
theorem titled_tick {tracker : Tracker} (sound : tracker.model.Sound) {snapshot : Snapshot}
    (snapshotAddressed : snapshot.IsAddressed)
    (addressed : ∀ change ∈ tracker.backlog.windows, change.IsAddressed)
    (carriesOn : tracker.startsOver = false) {rewriter : Rewriter} {next : Place}
    (here : (tracker.midway snapshot tracker.backlog.windows).Locates address next)
    (either : next.GoesBy rewriter windowClass title ∨ next = .nowhere) :
    (tracker.tick snapshot).model.Looks (Titled rewriter address windowClass title) := by
  refine looks_titled (sound.nextModel snapshotAddressed addressed) (locates_tick carriesOn here) ?_
  have aged : (if address ∈ tracker.model.orphans.keys then next.older tracker.bar
      else next).GoesBy rewriter windowClass title ∨
      (if address ∈ tracker.model.orphans.keys then next.older tracker.bar else next) =
        .nowhere := by
    split
    · rcases either with goesBy | rfl
      · exact goesBy.older tracker.bar
      · exact Or.inr rfl
    · exact either
  refine aged.imp (fun goesBy => goesBy.told _) fun nowhere => ?_
  rw [nowhere]
  rfl

end Runs

/-- After every run with addresses as the compositor writes them, let a title be announced in a tick
that carries on for a window that is known then and listed by the snapshot, and let the window be
opened and reported under one class only, before and by that snapshot. Let it neither be opened nor
get a title again, and let later snapshots report it under this class and this title if at all. Then
whenever a workspace shows the window, at the end of that tick and at any time later, its text is
the one for this class and this title, as long as there is something to show under them.

The window must not wait with another text made out already, for it keeps that text. And when it is
closed and then moved in what is left of the tick, it is taken from the snapshot, which has to have
the new title. -/
theorem titled_run [Pattern.Engine] (config : BarConfig) {inputs rest : List Input}
    {snapshot : Snapshot}
    (addressed : AreAddressed (inputs ++ .snapshot snapshot :: rest))
    (carriesOn : (run config inputs).startsOver = false)
    {earlier later : List WindowChange} {other address windowClass title : String}
    (itsOwn : plainAddress other = address)
    (announced : (run config inputs).backlog.windows =
      earlier ++ .retitled other (some title) :: later)
    (known : (((run config inputs).midway snapshot earlier).ownerOf? other).isSome = true)
    (unresolved : ∀ window text,
      ((run config inputs).midway snapshot earlier).orphans.get? address = some window →
        window.appearance = .resolved text →
          text = (Bar.ofConfig config).rewriter.windowText windowClass title)
    (classed : ∀ input ∈ inputs ++ [.snapshot snapshot], input.KeepsClass address windowClass)
    (listed : (snapshot.window? address).isSome = true)
    (kept : ∀ change ∈ later, change.entitles address = false)
    (reappears : later.Pairwise fun first second =>
      ∀ closed moved target, first = .closed closed → plainAddress closed = address →
        second = .moved moved target → plainAddress moved = address →
          ∀ report, snapshot.window? address = some report → report.title = title)
    (keptLater : ∀ input ∈ rest, input.KeepsTitle address windowClass title)
    (shows : (Bar.ofConfig config).rewriter.shows windowClass title = true) {key : Nat}
    {text : String}
    (shown : (run config (inputs ++ .snapshot snapshot :: rest)).model.textOn? key address =
      some text) :
    text = (Bar.ofConfig config).rewriter.windowText windowClass title := by
  have inputsAddressed : AreAddressed inputs :=
    fun input member => addressed input (List.mem_append_left _ member)
  have restAddressed : AreAddressed rest := fun input member =>
    addressed input (List.mem_append_right _ (List.mem_cons_of_mem _ member))
  have snapshotAddressed := addressed.snapshot (List.mem_append_right _ List.mem_cons_self)
  obtain ⟨sound, waiting⟩ := sound_run config inputsAddressed
  have reported : ∀ report, snapshot.window? address = some report →
      report.windowClass = windowClass := by
    intro report found
    have passed := List.find?_some found
    exact classed _ (List.mem_append_right _ (List.mem_singleton.mpr rfl)) report
      (List.mem_of_find?_eq_some found) (of_decide_eq_true passed)
  have looks := classed_midway inputsAddressed snapshotAddressed classed announced
  have bar := bar_run config inputs
  rw [← bar] at unresolved shows ⊢
  obtain ⟨next, here, either⟩ := goesBy_midway sound snapshotAddressed waiting itsOwn announced
    known unresolved looks listed reported kept reappears shows
  have ticked := titled_tick sound snapshotAddressed waiting carriesOn here either
  have looksLater : (rest.foldl accept ((run config inputs).tick snapshot)).model.Looks
      (Titled (run config inputs).bar.rewriter address windowClass title) :=
    looks_foldl_accept ticked (respects_titled _ _ _ _)
      (fun change => change.IsAddressed ∧ change.entitles address = false)
      (fun harmless => brings_titled _ harmless.1 harmless.2)
      (fun _ member => absurd member List.not_mem_nil)
      (fun change member => ⟨restAddressed.change member, keptLater _ member⟩)
      fun reports member => allowed_titled _ (restAddressed.snapshot member) (keptLater _ member)
  rw [run_resume, List.foldl_cons] at shown
  have plain : plainAddress address = address := by
    have otherAddressed : IsAddress other :=
      waiting _ (announced ▸ List.mem_append_right _ List.mem_cons_self) other rfl
    rw [← itsOwn, otherAddressed.plainAddress_plainAddress]
  exact looksLater.shown shown (bareAddress_of_plain plain)

/-- A window on a workspace gets another title and moves to a workspace that is not on the bar. -/
def retitledRun : List Input :=
  [.snapshot (titledSnapshot "term" "shell"), .event (.window (.retitled "cd" (some "notes"))),
    .event (.window (.moved "cd" "9"))]

/-- The window comes back, and the reports have its new title. -/
def movedBackRun : List Input :=
  [.event (.window (.moved "cd" "1")), .snapshot (titledSnapshot "term" "notes")]

theorem titled_run_retitledRun :
    let snapshot := titledSnapshot "term" "shell"
    let rewriter := (Bar.ofConfig titledConfig).rewriter
    let inputs := retitledRun ++ .snapshot snapshot :: movedBackRun
    AreAddressed inputs ∧ (run titledConfig retitledRun).startsOver = false ∧
      plainAddress "cd" = "cd" ∧
      (run titledConfig retitledRun).backlog.windows =
        [] ++ .retitled "cd" (some "notes") :: [.moved "cd" "9"] ∧
      (((run titledConfig retitledRun).midway snapshot []).ownerOf? "cd").isSome = true ∧
      (∀ window text,
        ((run titledConfig retitledRun).midway snapshot []).orphans.get? "cd" = some window →
          window.appearance = .resolved text → text = rewriter.windowText "term" "notes") ∧
      (∀ input ∈ retitledRun ++ [.snapshot snapshot], input.KeepsClass "cd" "term") ∧
      (snapshot.window? "cd").isSome = true ∧
      (∀ change ∈ [WindowChange.moved "cd" "9"], change.entitles "cd" = false) ∧
      (∀ input ∈ movedBackRun, input.KeepsTitle "cd" "term" "notes") ∧
      rewriter.shows "term" "notes" = true ∧
      (run titledConfig inputs).model.textOn? 1 "cd" = some "notes" ∧
      "notes" = rewriter.windowText "term" "notes" := by
  intro snapshot rewriter inputs
  have addressed : AreAddressed inputs := by
    simp [AreAddressed, inputs, snapshot, retitledRun, movedBackRun, titledSnapshot,
      Input.addresses, WindowChange.address?, isAddress_reported, isAddress_plain]
  have waiting : (run titledConfig retitledRun).backlog.windows =
      [] ++ .retitled "cd" (some "notes") :: [.moved "cd" "9"] := by decide
  have onWorkspace :
      ((run titledConfig retitledRun).midway snapshot []).orphans.get? "cd" = none := by decide
  have unresolved : ∀ window text,
      ((run titledConfig retitledRun).midway snapshot []).orphans.get? "cd" = some window →
        window.appearance = .resolved text → text = rewriter.windowText "term" "notes" :=
    fun window _ waits => absurd (waits.symm.trans onWorkspace) (Option.some_ne_none window)
  have classed : ∀ input ∈ retitledRun ++ [.snapshot snapshot], input.KeepsClass "cd" "term" := by
    simp [retitledRun, snapshot, titledSnapshot, Input.KeepsClass]
  have kept : ∀ change ∈ [WindowChange.moved "cd" "9"], change.entitles "cd" = false := by decide
  have keptLater : ∀ input ∈ movedBackRun, input.KeepsTitle "cd" "term" "notes" := by
    simp [movedBackRun, titledSnapshot, Input.KeepsTitle, WindowChange.entitles]
  have shown : (run titledConfig inputs).model.textOn? 1 "cd" = some "notes" := by decide
  exact ⟨addressed, by decide, by decide, waiting, by decide, unresolved, classed, by decide, kept,
    keptLater, by decide, shown, titled_run titledConfig addressed (by decide) (by decide) waiting
      (by decide) unresolved classed (by decide) kept (List.pairwise_singleton _ _) keptLater
      (by decide) shown⟩

/-- A window moves away from its workspace, gets another title and moves back. It is on the
workspace with its former title, although the snapshot has the new one. -/
theorem not_titled_resolved :
    let away : List Input :=
      [.snapshot (titledSnapshot "term" "shell"), .event (.window (.moved "cd" "9")),
        .event (.window (.retitled "cd" (some "notes"))), .event (.window (.moved "cd" "1"))]
    (run titledConfig away).startsOver = false ∧
      (((run titledConfig away).midway (titledSnapshot "term" "notes")
        [.moved "cd" "9"]).ownerOf? "cd").isSome = true ∧
      (Bar.ofConfig titledConfig).rewriter.shows "term" "notes" = true ∧
      ((run titledConfig away).tick (titledSnapshot "term" "notes")).model.textOn? 1 "cd" =
        some "shell" ∧
      (Bar.ofConfig titledConfig).rewriter.windowText "term" "notes" ≠ "shell" := by
  decide

end Tracker

end Deskbar
