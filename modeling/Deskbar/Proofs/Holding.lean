/-
This file follows one window through a model. What the model holds about an address is what the
index says, the window that waits under it and its text on each workspace. When these three agree
the window is at one place: nowhere, among those that wait, or on one workspace.

Every operation moves one window at a time. It brings that window from whatever place to a place
that is said here, and leaves what is held about every other address as it was.
-/

import Deskbar.Proofs.Outline

namespace Deskbar

/-! ### Places -/

/-- All that a model holds about an address. -/
structure Holding where
  /-- Who has the window, as the index says. -/
  owner : Option Owner
  /-- The window that waits under the address. -/
  orphan : Option Window
  /-- The text of the window on the workspace with a key. -/
  text : Nat → Option String

/-- Where a window is. -/
inductive Place where
  | nowhere
  | waiting (window : Window)
  | shown (key : Nat) (text : String)

/-- What a model holds about a window that is at a place. -/
def Place.holding : Place → Holding
  | .nowhere => ⟨none, none, fun _ => none⟩
  | .waiting window => ⟨some .orphan, some window, fun _ => none⟩
  | .shown key text =>
    ⟨some (.workspace key), none, fun other => if other = key then some text else none⟩

/-- Whether workspaces leave a window out, for want of class and title or of a text. -/
def Window.isLeftOut (rewriter : Rewriter) (window : Window) : Bool :=
  window.isBlank rewriter.readsTitle || (window.text rewriter).isEmpty

/-- Where a window is when it was given to the workspace with a key. -/
def Window.placeOn (rewriter : Rewriter) (key : Nat) (window : Window) : Place :=
  if window.isLeftOut rewriter then .nowhere else .shown key (window.text rewriter)

/-- Where a window is that waits, if there is one. -/
def Place.ofOrphan? : Option Window → Place
  | none => .nowhere
  | some window => .waiting window

/-- The window that waits after its workspace was removed, if the compositor still has it. -/
def Snapshot.leftBehind? (snapshot : Snapshot) (focused : Option String) (address text : String) :
    Option Window :=
  (snapshot.window? address).map fun report =>
    (Window.ofText report.workspace.name address text).withFocus (focused = some address)

namespace Model

/-- The text of a window on the workspace with a key. -/
def textOn? (key : Nat) (address : String) (model : Model) : Option String :=
  (model.workspaces.get? key).bind fun workspace => workspace.windows.get? address

/-- All that a model holds about an address. -/
def holding (address : String) (model : Model) : Holding :=
  { owner := model.owners.get? address
    orphan := model.orphans.get? address
    text := fun key => model.textOn? key address }

/-- The index, the windows that wait and the workspaces agree where a window is. -/
def Locates (model : Model) (address : String) (place : Place) : Prop :=
  model.holding address = place.holding

theorem holding_ext {first second : Model} {address : String}
    (owner : first.owners.get? address = second.owners.get? address)
    (orphan : first.orphans.get? address = second.orphans.get? address)
    (text : ∀ key, first.textOn? key address = second.textOn? key address) :
    first.holding address = second.holding address := by
  rw [holding, holding, owner, orphan, funext text]

theorem locates_iff {model : Model} {address : String} {place : Place} :
    model.Locates address place ↔
      model.owners.get? address = place.holding.owner ∧
        model.orphans.get? address = place.holding.orphan ∧
        ∀ key, model.textOn? key address = place.holding.text key := by
  constructor
  · intro located
    exact ⟨congrArg Holding.owner located, congrArg Holding.orphan located,
      congrFun (congrArg Holding.text located)⟩
  · rintro ⟨owner, orphan, text⟩
    rw [Locates, holding, owner, orphan, funext text]

section Locates

variable {model : Model} {address : String} {place : Place}

theorem Locates.owner (located : model.Locates address place) :
    model.owners.get? address = place.holding.owner := (locates_iff.mp located).1

theorem Locates.orphan (located : model.Locates address place) :
    model.orphans.get? address = place.holding.orphan := (locates_iff.mp located).2.1

theorem Locates.text (located : model.Locates address place) (key : Nat) :
    model.textOn? key address = place.holding.text key := (locates_iff.mp located).2.2 key

/-- Where a window is, is seen from what is held about its address alone. -/
theorem Locates.of_holding {other : Model} (located : model.Locates address place)
    (same : other.holding address = model.holding address) : other.Locates address place :=
  same.trans located

end Locates

/-! ### Changes of workspaces -/

theorem textOn?_of_get? {model : Model} {key : Nat} {workspace : Workspace}
    (present : model.workspaces.get? key = some workspace) (address : String) :
    model.textOn? key address = workspace.windows.get? address := by
  rw [textOn?, present, Option.bind_some]

theorem textOn?_of_absent {model : Model} {key : Nat}
    (absent : model.workspaces.get? key = none) (address : String) :
    model.textOn? key address = none := by
  rw [textOn?, absent, Option.bind_none]

theorem textOn?_update_of_ne (model : Model) {key other : Nat} (change : Workspace → Workspace)
    (different : other ≠ key) (address : String) :
    (model.update key change).textOn? other address = model.textOn? other address := by
  rw [textOn?, update, SortedMap.get?_modify_of_ne _ _ different, textOn?]

theorem textOn?_update_self {model : Model} {key : Nat} {workspace : Workspace}
    (present : model.workspaces.get? key = some workspace) (change : Workspace → Workspace)
    (address : String) :
    (model.update key change).textOn? key address = (change workspace).windows.get? address := by
  rw [textOn?, get?_update_self present, Option.bind_some]

/-- A change of one workspace that keeps the text of a window there keeps all that is held about
it. -/
theorem holding_update {model : Model} {key : Nat} {change : Workspace → Workspace}
    {address : String}
    (kept : ∀ workspace, model.workspaces.get? key = some workspace →
      (change workspace).windows.get? address = workspace.windows.get? address) :
    (model.update key change).holding address = model.holding address := by
  refine holding_ext rfl rfl fun other => ?_
  by_cases same : other = key
  · subst same
    cases present : model.workspaces.get? other with
    | none =>
      rw [textOn?, textOn?, update, SortedMap.get?_modify_self, present]
      rfl
    | some workspace =>
      rw [textOn?_update_self present, textOn?_of_get? present, kept workspace present]
  · exact textOn?_update_of_ne model change same address

/-- A change of all workspaces that keeps their windows keeps all that is held. -/
theorem holding_mapValues {change : Workspace → Workspace}
    (kept : ∀ workspace, (change workspace).windows = workspace.windows) (model : Model)
    (address : String) :
    { model with workspaces := model.workspaces.mapValues change }.holding address =
      model.holding address := by
  refine holding_ext rfl rfl fun key => ?_
  show ((model.workspaces.mapValues change).get? key).bind _ = _
  rw [SortedMap.get?_mapValues, Option.bind_map]
  exact congrArg (Option.bind _) (funext fun workspace =>
    congrArg (SortedMap.get? · address) (kept workspace))

/-- An observation of a workspace leaves it its windows. -/
theorem windows_observe (bar : Bar) (snapshot : Snapshot) (workspace : Workspace) :
    (workspace.observe bar snapshot).windows = workspace.windows := by
  show (workspace.reported snapshot).windows = workspace.windows
  rw [Workspace.reported]
  split <;> rfl

/-! ### Windows without an owner -/

theorem focused_withdraw (address : String) (model : Model) :
    (model.withdraw address).2.focused = model.focused := by
  rw [withdraw]
  split
  · rfl
  · dsimp only
    split <;> rfl
  · rfl

/-- Taking a window from its owner leaves the others where they are. -/
theorem holding_withdraw_of_ne (model : Model) {address other : String}
    (different : other ≠ address) :
    (model.withdraw address).2.holding other = model.holding other := by
  have unindexed : { model with owners := model.owners.erase address }.holding other =
      model.holding other :=
    holding_ext (SortedMap.get?_erase_of_ne _ different) rfl fun _ => rfl
  rw [withdraw]
  split
  · rfl
  · dsimp only
    split
    · exact unindexed
    · refine (holding_update fun workspace _ => ?_).trans unindexed
      exact SortedMap.get?_erase_of_ne _ different
  · exact holding_ext (SortedMap.get?_erase_of_ne _ different)
      (SortedMap.get?_erase_of_ne _ different) fun _ => rfl

/-- A window that was taken from its owner is nowhere. -/
theorem locates_withdraw {model : Model} {address : String} {place : Place}
    (located : model.Locates address place) :
    (model.withdraw address).2.Locates address .nowhere := by
  rw [withdraw, located.owner]
  cases place with
  | nowhere => exact located
  | waiting window =>
    exact locates_iff.mpr ⟨SortedMap.get?_erase_self .., SortedMap.get?_erase_self ..,
      located.text⟩
  | shown key text =>
    have onKey : model.textOn? key address = some text := (located.text key).trans (if_pos rfl)
    obtain ⟨workspace, present, -⟩ := Option.bind_eq_some_iff.mp onKey
    simp only [Place.holding, present]
    refine locates_iff.mpr ⟨SortedMap.get?_erase_self .., located.orphan, fun other => ?_⟩
    by_cases same : other = key
    · subst same
      refine (textOn?_update_self present _ address).trans ?_
      exact SortedMap.get?_erase_self ..
    · exact (textOn?_update_of_ne _ _ same address).trans
        ((located.text other).trans (if_neg same))

/-! ### Windows on workspaces -/

theorem get?_takeIn_of_ne (rewriter : Rewriter) (window : Window) (workspace : Workspace)
    {address : String} (different : address ≠ window.address) :
    (workspace.takeIn rewriter window).windows.get? address =
      workspace.windows.get? address := by
  rw [Workspace.takeIn]
  split
  · rfl
  · exact SortedMap.get?_insert_of_ne _ _ different

/-- Giving a window to a workspace leaves the others where they are. -/
theorem holding_place_of_ne (model : Model) (bar : Bar) (key : Nat) (window : Window)
    {address : String} (different : address ≠ window.address) :
    (model.place bar key window).holding address = model.holding address := by
  rw [place]
  dsimp only
  split
  · exact holding_withdraw_of_ne model different
  · next workspace present =>
    refine Eq.trans ?_ (holding_withdraw_of_ne model different)
    have updated : ((model.withdraw window.address).2.update key fun _ =>
        workspace.takeIn bar.rewriter
          (window.withFocus ((model.withdraw window.address).2.hasFocusOn
            window.address))).holding address =
        (model.withdraw window.address).2.holding address := by
      refine holding_update fun other found => ?_
      rw [Option.some.inj (found.symm.trans present)]
      exact get?_takeIn_of_ne bar.rewriter _ workspace different
    split
    · refine Eq.trans ?_ updated
      exact holding_ext (SortedMap.get?_insert_of_ne _ _ different) rfl fun _ => rfl
    · exact updated

theorem takeIn_of_leftOut {rewriter : Rewriter} (window : Window)
    (leftOut : window.isLeftOut rewriter = true) (workspace : Workspace) :
    workspace.takeIn rewriter window = workspace := if_pos leftOut

theorem windows_takeIn {rewriter : Rewriter} (window : Window)
    (shown : window.isLeftOut rewriter = false) (workspace : Workspace) :
    (workspace.takeIn rewriter window).windows =
      workspace.windows.insert window.address (window.text rewriter) :=
  congrArg Workspace.windows (if_neg (Bool.eq_false_iff.mp shown))

/-- A window that was given to a workspace is there, or nowhere when the workspace leaves it
out. -/
theorem locates_place {model : Model} {window : Window} {place : Place} {key : Nat}
    {workspace : Workspace} (bar : Bar) (located : model.Locates window.address place)
    (present : model.workspaces.get? key = some workspace) :
    (model.place bar key window).Locates window.address (window.placeOn bar.rewriter key) := by
  have withdrawn := locates_withdraw located
  obtain ⟨taken, found, -⟩ := get?_of_outline (outline_withdraw window.address model).symm present
  have absent : taken.windows.get? window.address = none := by
    rw [← textOn?_of_get? found]
    exact withdrawn.text key
  simp only [Model.place, found]
  generalize (model.withdraw window.address).2.hasFocusOn window.address = focus
  rw [Window.placeOn]
  cases leftOut : window.isLeftOut bar.rewriter with
  | true =>
    have same : taken.takeIn bar.rewriter (window.withFocus focus) = taken :=
      takeIn_of_leftOut (window.withFocus focus) leftOut taken
    have missing : taken.holds window.address = false := by
      rw [Workspace.holds, SortedMap.contains, absent]
      rfl
    have updated : ((model.withdraw window.address).2.update key fun _ => taken).Locates
        window.address .nowhere := by
      refine withdrawn.of_holding (holding_update fun other present => ?_)
      rw [Option.some.inj (present.symm.trans found)]
    rw [if_pos rfl, same]
    show (if taken.holds window.address = true then _ else _ : Model).Locates _ _
    rw [if_neg (Bool.eq_false_iff.mp missing)]
    exact updated
  | false =>
    have inserted := windows_takeIn (window.withFocus focus) leftOut taken
    have here : (taken.takeIn bar.rewriter (window.withFocus focus)).windows.get?
        window.address = some (window.text bar.rewriter) := by
      rw [inserted]
      exact SortedMap.get?_insert_self ..
    have holds : (taken.takeIn bar.rewriter (window.withFocus focus)).holds
        window.address = true := SortedMap.contains_iff.mpr ⟨_, here⟩
    rw [if_neg Bool.false_ne_true]
    show (if (taken.takeIn bar.rewriter (window.withFocus focus)).holds window.address = true then _
      else _ : Model).Locates _ _
    rw [if_pos holds]
    refine locates_iff.mpr ⟨SortedMap.get?_insert_self .., withdrawn.orphan, fun other => ?_⟩
    by_cases same : other = key
    · subst same
      refine (textOn?_update_self found _ window.address).trans (here.trans ?_)
      exact (if_pos rfl).symm
    · refine (textOn?_update_of_ne _ _ same window.address).trans ((withdrawn.text other).trans ?_)
      exact (if_neg same).symm

/-- No workspace takes in a window that is given to a key that none has. -/
theorem locates_place_of_absent {model : Model} {window : Window} {place : Place} {key : Nat}
    (bar : Bar) (located : model.Locates window.address place)
    (absent : model.workspaces.get? key = none) :
    (model.place bar key window).Locates window.address .nowhere := by
  have missing : (model.withdraw window.address).2.workspaces.get? key = none := by
    cases found : (model.withdraw window.address).2.workspaces.get? key with
    | none => rfl
    | some workspace =>
      obtain ⟨other, present, -⟩ := get?_of_outline (outline_withdraw window.address model) found
      rw [absent] at present
      cases present
  simp only [Model.place, missing]
  exact locates_withdraw located

/-! ### Windows that wait -/

/-- Letting a window wait leaves the others where they are. -/
theorem holding_orphan_of_ne (model : Model) {window : Window} {address : String}
    (different : address ≠ window.address) :
    (model.orphan window).holding address = model.holding address := by
  refine Eq.trans ?_ (holding_withdraw_of_ne model different)
  exact holding_ext (SortedMap.get?_insert_of_ne _ _ different)
    (SortedMap.get?_insert_of_ne _ _ different) fun _ => rfl

theorem locates_orphan {model : Model} {window : Window} {place : Place}
    (located : model.Locates window.address place) :
    (model.orphan window).Locates window.address
      (.waiting (window.withFocus (model.hasFocusOn window.address))) := by
  rw [orphan, hasFocusOn, focused_withdraw, ← hasFocusOn]
  exact locates_iff.mpr ⟨SortedMap.get?_insert_self .., SortedMap.get?_insert_self ..,
    (locates_withdraw located).text⟩

/-- A window under its own address is forgotten when it no longer waits and has no owner. -/
theorem locates_forget {model : Model} {address : String} {window : Window}
    (located : model.Locates address (.waiting window)) :
    { model with
      orphans := model.orphans.erase address
      owners := model.owners.erase address }.Locates address .nowhere :=
  locates_iff.mpr ⟨SortedMap.get?_erase_self .., SortedMap.get?_erase_self .., located.text⟩

theorem holding_forget_of_ne (model : Model) {address other : String}
    (different : other ≠ address) :
    { model with
      orphans := model.orphans.erase address
      owners := model.owners.erase address }.holding other = model.holding other :=
  holding_ext (SortedMap.get?_erase_of_ne _ different) (SortedMap.get?_erase_of_ne _ different)
    fun _ => rfl

/-- A window that waits may change where it waits. -/
theorem locates_modify {model : Model} {address : String} {window : Window}
    (located : model.Locates address (.waiting window)) (change : Window → Window) :
    { model with orphans := model.orphans.modify address change }.Locates address
      (.waiting (change window)) := by
  refine locates_iff.mpr ⟨located.owner, ?_, located.text⟩
  refine (SortedMap.get?_modify_self ..).trans ?_
  rw [located.orphan]
  rfl

theorem holding_modify_of_ne (model : Model) {address other : String} (change : Window → Window)
    (different : other ≠ address) :
    { model with orphans := model.orphans.modify address change }.holding other =
      model.holding other :=
  holding_ext rfl (SortedMap.get?_modify_of_ne _ _ different) fun _ => rfl

/-- A window that is shown may be shown with another text. -/
theorem locates_setText {model : Model} {address : String} {key : Nat} {former : String}
    (located : model.Locates address (.shown key former)) (text : String) :
    (model.update key fun workspace => workspace.setText address text).Locates address
      (.shown key text) := by
  refine locates_iff.mpr ⟨located.owner, located.orphan, fun other => ?_⟩
  by_cases same : other = key
  · subst same
    have onKey : model.textOn? other address = some former :=
      (located.text other).trans (if_pos rfl)
    obtain ⟨workspace, present, texts⟩ := Option.bind_eq_some_iff.mp onKey
    rw [textOn?_update_self present, Workspace.setText, SortedMap.get?_modify_self, texts]
    exact (if_pos rfl).symm
  · rw [textOn?_update_of_ne _ _ same, located.text other]
    exact (if_neg same).trans (if_neg same).symm

theorem holding_setText_of_ne (model : Model) (key : Nat) {address other : String} (text : String)
    (different : other ≠ address) :
    (model.update key fun workspace => workspace.setText address text).holding other =
      model.holding other :=
  holding_update fun _ _ => SortedMap.get?_modify_of_ne _ _ different

/-- A workspace without windows under a key that none had changes nothing for windows. -/
theorem holding_insert (model : Model) {key : Nat} {workspace : Workspace}
    (absent : model.workspaces.get? key = none) (bare : workspace.windows = SortedMap.empty)
    (lastKey : Nat) (address : String) :
    { model with
      workspaces := model.workspaces.insert key workspace
      lastKey := lastKey }.holding address = model.holding address := by
  refine holding_ext rfl rfl fun other => ?_
  rw [textOn?, SortedMap.get?_insert, textOn?]
  split
  · next same =>
    rw [same, absent, Option.bind_some, bare]
    rfl
  · rfl

/-! ### Removal of workspaces -/

theorem focused_abandon (snapshot : Snapshot) (model : Model) (entry : String × String) :
    (model.abandon snapshot entry).focused = model.focused := by
  rw [abandon]
  split
  · exact focused_withdraw ..
  · rfl

theorem holding_abandon_of_ne (snapshot : Snapshot) (model : Model) {entry : String × String}
    {address : String} (plain : plainAddress entry.1 = entry.1) (different : address ≠ entry.1) :
    (model.abandon snapshot entry).holding address = model.holding address := by
  have unindexed : { model with owners := model.owners.erase entry.1 }.holding address =
      model.holding address :=
    holding_ext (SortedMap.get?_erase_of_ne _ different) rfl fun _ => rfl
  rw [abandon]
  split
  · next report _ =>
    have named : (Window.ofText report.workspace.name entry.1 entry.2).address = entry.1 := plain
    refine (holding_orphan_of_ne _ ?_).trans unindexed
    rw [named]
    exact different
  · exact unindexed

/-- A loose window, which the index may name but nobody holds, waits if it is still reported. -/
theorem locates_abandon (snapshot : Snapshot) {model : Model} {entry : String × String}
    (plain : plainAddress entry.1 = entry.1) (orphan : model.orphans.get? entry.1 = none)
    (text : ∀ key, model.textOn? key entry.1 = none) :
    (model.abandon snapshot entry).Locates entry.1
      (.ofOrphan? (snapshot.leftBehind? model.focused entry.1 entry.2)) := by
  have nowhere : { model with owners := model.owners.erase entry.1 }.Locates entry.1 .nowhere :=
    locates_iff.mpr ⟨SortedMap.get?_erase_self .., orphan, text⟩
  rw [abandon, Snapshot.leftBehind?]
  split
  · next report found =>
    have named : (Window.ofText report.workspace.name entry.1 entry.2).address = entry.1 := plain
    rw [found]
    rw [← named] at nowhere
    have waits := locates_orphan nowhere
    rw [named] at waits
    exact waits
  · next missing =>
    rw [missing]
    exact nowhere

theorem holding_foldl_abandon (snapshot : Snapshot) {entries : List (String × String)}
    {address : String} (plain : ∀ entry ∈ entries, plainAddress entry.1 = entry.1)
    (absent : address ∉ entries.map Prod.fst) (model : Model) :
    (entries.foldl (abandon snapshot) model).holding address = model.holding address := by
  refine List.foldlRecOn entries (abandon snapshot)
    (motive := fun next => next.holding address = model.holding address) rfl
    fun next kept entry member => ?_
  refine (holding_abandon_of_ne snapshot next (plain entry member) fun same => ?_).trans kept
  exact absent (List.mem_map.mpr ⟨entry, member, same.symm⟩)

/-- Of loose windows each one waits if it is still reported, whatever is done for the others. -/
theorem locates_foldl_abandon (snapshot : Snapshot) {entries : List (String × String)}
    (plain : ∀ entry ∈ entries, plainAddress entry.1 = entry.1)
    (distinct : (entries.map Prod.fst).Nodup) {entry : String × String} (member : entry ∈ entries)
    {model : Model} (orphan : model.orphans.get? entry.1 = none)
    (text : ∀ key, model.textOn? key entry.1 = none) :
    (entries.foldl (abandon snapshot) model).Locates entry.1
      (.ofOrphan? (snapshot.leftBehind? model.focused entry.1 entry.2)) := by
  induction entries generalizing model with
  | nil => exact absurd member List.not_mem_nil
  | cons first rest inductionHypothesis =>
    obtain ⟨notLater, restDistinct⟩ := List.nodup_cons.mp distinct
    have restPlain : ∀ later ∈ rest, plainAddress later.1 = later.1 :=
      fun later laterMember => plain later (List.mem_cons_of_mem _ laterMember)
    rw [List.foldl_cons]
    rcases List.mem_cons.mp member with same | later
    · rw [same] at orphan text ⊢
      exact (locates_abandon snapshot (plain first List.mem_cons_self) orphan text).of_holding
        (holding_foldl_abandon snapshot restPlain notLater _)
    · have different : entry.1 ≠ first.1 := fun same =>
        notLater (same ▸ List.mem_map_of_mem later)
      have untouched := holding_abandon_of_ne snapshot model (plain first List.mem_cons_self)
        different
      rw [← focused_abandon snapshot model first]
      refine inductionHypothesis restPlain restDistinct later ?_ fun key => ?_
      · exact (congrArg Holding.orphan untouched).trans orphan
      · exact (congrFun (congrArg Holding.text untouched) key).trans (text key)

/-- A removed workspace before anything is done about its windows: it shows none of them. -/
def withoutWindows (key : Nat) (workspace : Workspace) (model : Model) : Model :=
  if workspace.flags.persistentConfig then
    model.update key fun workspace => workspace.clearWindows.letGo
  else { model with workspaces := model.workspaces.erase key }

theorem remove_eq {model : Model} {key : Nat} {workspace : Workspace} (snapshot : Snapshot)
    (present : model.workspaces.get? key = some workspace) :
    model.remove snapshot key =
      workspace.windows.entries.foldl (abandon snapshot) (model.withoutWindows key workspace) := by
  rw [remove, present]
  rfl

theorem textOn?_withoutWindows {model : Model} {key : Nat} {workspace : Workspace}
    (present : model.workspaces.get? key = some workspace) (other : Nat) (address : String) :
    (model.withoutWindows key workspace).textOn? other address =
      if other = key then none else model.textOn? other address := by
  rw [withoutWindows]
  split
  · split
    · next same =>
      rw [same, textOn?_update_self present]
      rfl
    · next different => exact textOn?_update_of_ne model _ different address
  · split
    · next same =>
      rw [same]
      exact textOn?_of_absent (SortedMap.get?_erase_self ..) address
    · next different =>
      rw [textOn?, SortedMap.get?_erase_of_ne _ different, textOn?]

section Removal

variable {model : Model} {key : Nat} {workspace : Workspace} {address : String}

/-- Removal of a workspace leaves the windows that are not on it where they are. -/
theorem holding_remove_of_elsewhere (snapshot : Snapshot)
    (present : model.workspaces.get? key = some workspace)
    (plain : ∀ address ∈ workspace.windows.keys, plainAddress address = address)
    (elsewhere : workspace.windows.get? address = none) :
    (model.remove snapshot key).holding address = model.holding address := by
  rw [remove_eq snapshot present, holding_foldl_abandon snapshot
    (fun entry member => plain entry.1 (List.mem_map_of_mem member))
    (SortedMap.get?_eq_none_iff.mp elsewhere)]
  refine holding_ext ?_ ?_ fun other => ?_
  · rw [withoutWindows]
    split <;> rfl
  · rw [withoutWindows]
    split <;> rfl
  · rw [textOn?_withoutWindows present]
    split
    · next same => rw [same, textOn?_of_get? present, elsewhere]
    · rfl

/-- Removal of a workspace lets its windows wait that are still reported. -/
theorem locates_remove (snapshot : Snapshot) {text : String}
    (present : model.workspaces.get? key = some workspace)
    (plain : ∀ address ∈ workspace.windows.keys, plainAddress address = address)
    (located : model.Locates address (.shown key text)) :
    (model.remove snapshot key).Locates address
      (.ofOrphan? (snapshot.leftBehind? model.focused address text)) := by
  have here : workspace.windows.get? address = some text := by
    rw [← textOn?_of_get? present, located.text key]
    exact if_pos rfl
  have sameFocus : (model.withoutWindows key workspace).focused = model.focused := by
    rw [withoutWindows]
    split <;> rfl
  have sameOrphans : (model.withoutWindows key workspace).orphans = model.orphans := by
    rw [withoutWindows]
    split <;> rfl
  rw [remove_eq snapshot present, ← sameFocus]
  refine locates_foldl_abandon snapshot
    (fun entry member => plain entry.1 (List.mem_map_of_mem member)) workspace.windows.keys_nodup
    (SortedMap.get?_eq_some_iff.mp here) ?_ fun other => ?_
  · rw [sameOrphans]
    exact located.orphan
  · rw [textOn?_withoutWindows present]
    split
    · rfl
    · next different => exact (located.text other).trans (if_neg different)

end Removal

end Model

end Deskbar
