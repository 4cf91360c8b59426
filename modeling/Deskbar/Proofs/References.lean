/-
This file says when a reference is found. An opened or moved window carries the reference of its
workspace, which has lost the lead of a raw name already, and is looked up by it as if it were a raw
name again. A window that waits is claimed by comparing references as they are. The two agree as
long as a lookup finds nothing to take away from the reference: a reference without a lead is its
own reference, so the workspace that would claim the window is also the one, or one of those, that
the lookup can find.

A reference may begin with a lead when the raw name has two of them, one behind the other. Then the
lookup asks for another name than the one that windows wait under.
-/

import Mathlib.Data.List.TakeWhile
import Deskbar.Proofs.Landing
import Deskbar.Proofs.Replay

namespace Deskbar

/-! ### Leads -/

/-- What is behind a lead is shorter than the whole text. -/
theorem ofList_ne_of_led {text : String} {lead rest : List Char} (led : text.toList = lead ++ rest)
    (nonempty : lead ≠ []) : String.ofList rest ≠ text := by
  intro same
  rw [← same, String.toList_ofList] at led
  exact nonempty (List.append_left_eq_self.mp led.symm)

namespace WorkspaceName

/-- Whether a name begins with a lead, as if it were a raw name. -/
def IsLed (name : String) : Prop :=
  namedLead.toList <+: name.toList ∨ specialLead.toList <+: name.toList

instance (name : String) : Decidable (IsLed name) := inferInstanceAs (Decidable (_ ∨ _))

/-- A name is shown as it is when it does not begin with a lead. -/
theorem shownName_eq_self_iff {name : String} : shownName name = name ↔ ¬IsLed name := by
  rw [shownName, parse, IsLed]
  cases named : Text.afterLead namedLead.toList name.toList with
  | some rest =>
    have led := Text.afterLead_eq_some_iff.mp named
    exact iff_of_false (ofList_ne_of_led led (by decide))
      (not_not_intro (Or.inl ⟨rest, led.symm⟩))
  | none =>
    have unnamed := Text.afterLead_eq_none_iff.mp named
    dsimp only
    split
    · next bare =>
      subst bare
      exact iff_of_true rfl (by decide)
    · cases special : Text.afterLead specialLead.toList name.toList with
      | some rest =>
        have led := Text.afterLead_eq_some_iff.mp special
        exact iff_of_false (ofList_ne_of_led led (by decide))
          (not_not_intro (Or.inr ⟨rest, led.symm⟩))
      | none =>
        exact iff_of_true rfl (not_or_intro unnamed (Text.afterLead_eq_none_iff.mp special))

/-- A beginning that passes a test is also one of the longest beginning that does. -/
theorem prefix_takeWhile_iff {test : Char → Bool} {lead : List Char} (text : List Char)
    (passes : ∀ c ∈ lead, test c = true) : lead <+: text.takeWhile test ↔ lead <+: text := by
  constructor
  · exact fun led => led.trans (List.takeWhile_prefix test)
  · rintro ⟨rest, rfl⟩
    rw [List.takeWhile_append_of_pos passes]
    exact List.prefix_append lead _

/-- No lead has a space in it, so a reference begins with one when the shown name does. -/
theorem isLed_workspaceReference_iff {raw : String} :
    IsLed (workspaceReference raw) ↔ IsLed (shownName raw) := by
  have named := prefix_takeWhile_iff (shownName raw).toList
    (List.all_eq_true.mp (by decide : namedLead.toList.all (· ≠ ' ') = true))
  have special := prefix_takeWhile_iff (shownName raw).toList
    (List.all_eq_true.mp (by decide : specialLead.toList.all (· ≠ ' ') = true))
  rw [IsLed, workspaceReference, String.toList_ofList, named, special, IsLed]

end WorkspaceName

/-- A reference is its own reference when the shown name does not begin with a lead. -/
theorem workspaceReference_idem {raw : String}
    (single : ¬WorkspaceName.IsLed (shownName raw)) :
    workspaceReference (workspaceReference raw) = workspaceReference raw :=
  workspaceReference_workspaceReference (WorkspaceName.shownName_eq_self_iff.mpr
    (WorkspaceName.isLed_workspaceReference_iff.not.mpr single))

/-! ### Lookups by references -/

namespace Model

section Referred

variable {model : Model} {raw : String} {key : Nat}

theorem exists_named?_of_referred (single : ¬WorkspaceName.IsLed (shownName raw))
    (referred : model.referenceAt? key = some (workspaceReference raw)) :
    ∃ found, model.named? (workspaceReference raw) = some found := by
  obtain ⟨workspace, present, reference⟩ := Option.map_eq_some_iff.mp referred
  refine Option.isSome_iff_exists.mp (isSome_named?_iff.mpr ⟨key, workspace, present, Or.inr ?_⟩)
  rw [reference, workspaceReference_idem single]

/-- A window that refers to a workspace that is found is given to it. -/
theorem settle_of_named? {found : Workspace} (bar : Bar) (window : Window)
    (named : model.named? window.workspace = some found) :
    model.settle bar window = model.place bar found.key window := by
  rw [settle, named]

/-- No window begins to wait when one is opened under the reference of a workspace. -/
theorem sheds_opened (single : ¬WorkspaceName.IsLed (shownName raw))
    (referred : model.referenceAt? key = some (workspaceReference raw)) (bar : Bar)
    (snapshot : Snapshot) (address windowClass title : String) :
    Sheds model.orphans (model.applyWindowChange bar snapshot
      (.opened address raw windowClass title)).orphans := by
  obtain ⟨found, named⟩ := exists_named?_of_referred single referred
  rw [applyWindowChange, openWindow]
  split
  · exact Sheds.refl model.orphans
  · rw [settle_of_named? bar (Window.ofIdentity raw address windowClass title) named]
    exact Sheds.place ..

/-- No window begins to wait when one is moved to the reference of a workspace. -/
theorem sheds_moved (single : ¬WorkspaceName.IsLed (shownName raw))
    (referred : model.referenceAt? key = some (workspaceReference raw)) (bar : Bar)
    (snapshot : Snapshot) (address : String) :
    Sheds model.orphans (model.applyWindowChange bar snapshot (.moved address raw)).orphans := by
  have withdrawn := Sheds.withdraw (plainAddress address) model
  -- The window is taken from its owner first, which does not change what workspaces are called.
  have stillReferred := ((KeepsNames.of_outline
    (outline_withdraw (plainAddress address) model)).reference key).trans referred
  obtain ⟨found, named⟩ := exists_named?_of_referred single stillReferred
  rw [applyWindowChange, moveWindow]
  dsimp only
  split
  · next window moved =>
    have refers : window.workspace = workspaceReference raw := by
      rcases Option.or_eq_some_iff.mp moved with sent | ⟨-, reported⟩
      · obtain ⟨origin, -, rfl⟩ := Option.map_eq_some_iff.mp sent
        rfl
      · obtain ⟨report, -, rfl⟩ := Option.map_eq_some_iff.mp reported
        rfl
    rw [settle_of_named? bar window (refers.symm ▸ named)]
    exact withdrawn.trans (Sheds.place ..)
  · exact withdrawn

/-- A window whose reference is found does not wait when it is given to its workspace. -/
theorem orphan_destination {found : Workspace} (bar : Bar) (window : Window)
    (named : model.named? window.workspace = some found) :
    (model.destination bar window).holding.orphan = none := by
  have placed : model.destination bar window = window.placeOn bar.rewriter found.key := by
    rw [destination, meant?, named, Option.map_some]
  rw [placed, Window.placeOn]
  split <;> rfl

/-- A window that is opened under a reference that is found does not wait afterwards, wherever it
was. -/
theorem orphan_leads_opened {address other windowClass title : String} {place : Place}
    {found : Workspace} (named : model.named? (workspaceReference raw) = some found) (bar : Bar)
    (snapshot : Snapshot) (itsOwn : plainAddress other = address) :
    (model.leads bar snapshot address place
      (.opened other raw windowClass title)).holding.orphan = none := by
  have touched : (WindowChange.opened other raw windowClass title).touches address = true :=
    decide_eq_true itsOwn
  rw [leads, if_pos touched, takes]
  split
  · next repeats =>
    -- A window that waits repeats nothing when its reference means a workspace.
    cases place with
    | waiting waiting =>
      have meant : model.meant? (Window.ofIdentity raw other windowClass title).workspace =
          some found.key := congrArg (Option.map Workspace.key) named
      rw [meant, Place.repeats, Option.isNone_some, Bool.false_and] at repeats
      cases repeats
    | nowhere => rfl
    | shown key text => rfl
  · exact orphan_destination bar (Window.ofIdentity raw other windowClass title) named

/-- A window that is moved to a reference that is found does not wait afterwards, wherever it
was. -/
theorem orphan_leads_moved {address other : String} {place : Place} {found : Workspace}
    (named : model.named? (workspaceReference raw) = some found) (bar : Bar) (snapshot : Snapshot)
    (itsOwn : plainAddress other = address) :
    (model.leads bar snapshot address place (.moved other raw)).holding.orphan = none := by
  have touched : (WindowChange.moved other raw).touches address = true := decide_eq_true itsOwn
  rw [leads, if_pos touched, takes]
  cases moved : movedWindow? snapshot (plainAddress other) raw place with
  | none => rfl
  | some window =>
    exact orphan_destination bar window ((workspace_of_movedWindow? moved).symm ▸ named)

end Referred

end Model

/-! ### Runs -/

namespace Tracker

/-- A reference whose shown name does not begin with a lead is found whenever it is the reference of
a workspace: a window that refers to it is given to the workspace that is found. Whatever its
address, no window begins to wait when one is opened under the raw name or moved there. After every
run with addresses as the compositor writes them, in the middle of a tick, such a window does not
wait afterwards, even if it has waited before. -/
theorem found_referred [Pattern.Engine] {raw : String} (single : ¬WorkspaceName.IsLed
    (shownName raw)) :
    (∀ (model : Model) (key : Nat), model.referenceAt? key = some (workspaceReference raw) →
      (∃ found, model.named? (workspaceReference raw) = some found ∧
        ∀ (bar : Bar) (window : Window), window.workspace = workspaceReference raw →
          model.settle bar window = model.place bar found.key window) ∧
        ∀ (bar : Bar) (snapshot : Snapshot) (address : String),
          (∀ windowClass title, Model.Sheds model.orphans (model.applyWindowChange bar snapshot
            (.opened address raw windowClass title)).orphans) ∧
            Model.Sheds model.orphans
              (model.applyWindowChange bar snapshot (.moved address raw)).orphans) ∧
      ∀ (config : BarConfig) (inputs : List Input) (snapshot : Snapshot)
        (done : List WindowChange), AreAddressed inputs → snapshot.IsAddressed →
          (∀ change ∈ done, change.IsAddressed) →
          let bar := Bar.ofConfig config
          let model := (run config inputs).midway snapshot done
          ∀ key, model.referenceAt? key = some (workspaceReference raw) →
            ∀ address, IsAddress address →
              (∀ windowClass title, (model.applyWindowChange bar snapshot
                (.opened address raw windowClass title)).orphans.get? (plainAddress address) =
                  none) ∧
                (model.applyWindowChange bar snapshot (.moved address raw)).orphans.get?
                  (plainAddress address) = none := by
  constructor
  · intro model key referred
    obtain ⟨found, named⟩ := Model.exists_named?_of_referred single referred
    refine ⟨⟨found, named, fun bar window refers => ?_⟩, fun bar snapshot address =>
      ⟨Model.sheds_opened single referred bar snapshot address,
        Model.sheds_moved single referred bar snapshot address⟩⟩
    exact Model.settle_of_named? bar window (refers.symm ▸ named)
  · intro config inputs snapshot done addressed snapshotAddressed doneAddressed bar model key
      referred address isAddress
    have sound : model.Sound :=
      sound_midway (sound_run config addressed).1 snapshotAddressed doneAddressed
    obtain ⟨found, named⟩ := Model.exists_named?_of_referred single referred
    obtain ⟨place, located, -⟩ := sound.owned.located (plainAddress address)
    constructor
    · intro windowClass title
      have opened : (WindowChange.opened address raw windowClass title).IsAddressed :=
        fun _ spoken => Option.some.inj spoken ▸ isAddress
      exact (Model.locates_applyWindowChange sound bar snapshot opened located).orphan.trans
        (Model.orphan_leads_opened named bar snapshot rfl)
    · have moved : (WindowChange.moved address raw).IsAddressed :=
        fun _ spoken => Option.some.inj spoken ▸ isAddress
      exact (Model.locates_applyWindowChange sound bar snapshot moved located).orphan.trans
        (Model.orphan_leads_moved named bar snapshot rfl)

/-- A report of a workspace with a space in its name. -/
def numberedSnapshot : Snapshot := { workspaces := [{ id := 1, name := "mail 1" }] }

/-- A window is opened on a workspace under a raw name that has a lead and ends in another
number. -/
theorem found_referred_numberedSnapshot :
    let raw := "name:mail 2"
    let model := (run {} [.snapshot numberedSnapshot]).midway numberedSnapshot []
    ¬WorkspaceName.IsLed (shownName raw) ∧
      model.referenceAt? 1 = some (workspaceReference raw) ∧
      (∃ found, model.named? (workspaceReference raw) = some found) ∧
      (model.applyWindowChange (Bar.ofConfig {}) numberedSnapshot
        (.opened "ab" raw "editor" "notes")).orphans.get? "ab" = none := by
  intro raw model
  have single : ¬WorkspaceName.IsLed (shownName raw) := by decide
  have referred : model.referenceAt? 1 = some (workspaceReference raw) := by decide
  have addressed : AreAddressed [.snapshot numberedSnapshot] := by
    simp [AreAddressed, Input.addresses, numberedSnapshot]
  have snapshotAddressed : numberedSnapshot.IsAddressed :=
    fun _ member => absurd member List.not_mem_nil
  obtain ⟨every, opened⟩ := found_referred single
  obtain ⟨⟨found, named, -⟩, -⟩ := every model 1 referred
  exact ⟨single, referred, ⟨found, named⟩,
    (opened {} _ numberedSnapshot [] addressed snapshotAddressed
      (fun _ member => absurd member List.not_mem_nil) 1 referred "ab" isAddress_announced).1
        "editor" "notes"⟩

/-- A report of a workspace whose raw name has a lead behind its lead. -/
def ledTwiceNameSnapshot : Snapshot := { workspaces := [{ id := 1, name := "name:name:web" }] }

/-- The workspace is there and a window that waits under its reference would be claimed by it, but a
lookup by the reference finds nothing, and a window that is opened on the workspace begins to
wait. -/
theorem not_found_ledTwiceName :
    let raw := "name:name:web"
    let model := (run {} [.snapshot ledTwiceNameSnapshot]).midway ledTwiceNameSnapshot []
    let opened := model.applyWindowChange (Bar.ofConfig {}) ledTwiceNameSnapshot
      (.opened "ab" raw "editor" "notes")
    model.referenceAt? 1 = some (workspaceReference raw) ∧
      model.named? (workspaceReference raw) = none ∧
      opened.waitingFor (workspaceReference raw) = ["ab"] := by
  decide

end Tracker

end Deskbar
