/-
This file shows what the check of ownership is worth. It walks over the windows on workspaces and
then over those that wait, keeps the addresses it has seen, and counts at the end. It passes
exactly when the index names for every window the one who holds it, and names nothing else.

At the end of every run with addresses as the compositor writes them it passes.
-/

import Mathlib.Data.List.Perm.Subperm
import Deskbar.Pattern.Compiled
import Deskbar.Proofs.Folds
import Deskbar.Proofs.Ownership

namespace Deskbar

/-- A step keeps an address that it has not seen and that nothing is wrong with. -/
theorem guarded_eq_ok_iff {Fault : Type} (seen : List String) (address : String) (good : Prop)
    [Decidable good] (twice wrong : Fault) (result : List String) :
    (if seen.contains address then .error twice else if ¬good then .error wrong
      else .ok (address :: seen)) = Except.ok result ↔
      (address ∉ seen ∧ good) ∧ result = address :: seen := by
  simp only [List.contains_iff_mem]
  split
  · next member =>
    refine ⟨fun failed => ?_, fun passed => absurd member passed.1.1⟩
    cases failed
  · next fresh =>
    split
    · next wrong =>
      refine ⟨fun failed => ?_, fun passed => absurd passed.1.2 wrong⟩
      cases failed
    · next right =>
      exact ⟨fun same => ⟨⟨fresh, not_not.mp right⟩, (Except.ok.inj same).symm⟩,
        fun passed => congrArg Except.ok passed.2.symm⟩

namespace Model

/-- The index names for every window the one who holds it, and names nothing else. -/
structure SinglyOwned (model : Model) : Prop where
  shown : ∀ address key, model.owners.get? address = some (.workspace key) ↔
    ∃ text, model.textOn? key address = some text
  waiting : ∀ address, model.owners.get? address = some .orphan ↔
    ∃ window, model.orphans.get? address = some window

/-- In an owned model the index, the workspaces and the windows that wait agree. -/
theorem Owned.singlyOwned {model : Model} (owned : model.Owned) : model.SinglyOwned := by
  constructor
  · intro address key
    obtain ⟨place, located, -⟩ := owned.located address
    rw [located.owner, located.text key]
    cases place with
    | nowhere => simp [Place.holding]
    | waiting window => simp [Place.holding]
    | shown other text =>
      simp only [Place.holding, Option.some.injEq, Owner.workspace.injEq]
      split
      · next same => exact ⟨fun _ => ⟨text, rfl⟩, fun _ => same.symm⟩
      · next different =>
        refine ⟨fun same => absurd same.symm different, fun shown => ?_⟩
        obtain ⟨_, found⟩ := shown
        cases found
  · intro address
    obtain ⟨place, located, -⟩ := owned.located address
    rw [located.owner, located.orphan]
    cases place with
    | nowhere => simp [Place.holding]
    | waiting window => exact ⟨fun _ => ⟨window, rfl⟩, fun _ => rfl⟩
    | shown key text => simp [Place.holding]

/-! ### The walks of the check -/

section Walks

variable {model : Model}

theorem mem_placed_iff {address : String} {key : Nat} :
    (address, key) ∈ model.placed ↔ ∃ text, model.textOn? key address = some text := by
  simp only [placed, List.mem_flatMap, List.mem_map, Prod.mk.injEq, Prod.exists, textOn?,
    Option.bind_eq_some_iff]
  constructor
  · rintro ⟨_, workspace, entry, _, member, rfl, rfl⟩
    obtain ⟨text, found⟩ := SortedMap.mem_keys_iff.mp member
    exact ⟨text, workspace, SortedMap.get?_eq_some_iff.mpr entry, found⟩
  · rintro ⟨text, workspace, present, found⟩
    exact ⟨key, workspace, SortedMap.get?_eq_some_iff.mp present, address,
      SortedMap.mem_keys_iff.mpr ⟨text, found⟩, rfl, rfl⟩

theorem checkPlaced_eq_ok_iff (seen : List String) (entry : String × Nat)
    (result : List String) :
    model.checkPlaced seen entry = .ok result ↔
      (entry.1 ∉ seen ∧ model.owners.get? entry.1 = some (.workspace entry.2)) ∧
        result = entry.1 :: seen := guarded_eq_ok_iff ..

theorem checkWaiting_eq_ok_iff (seen : List String) (address : String) (result : List String) :
    model.checkWaiting seen address = .ok result ↔
      (address ∉ seen ∧ model.owners.get? address = some .orphan) ∧ result = address :: seen :=
  guarded_eq_ok_iff ..

/-- The addresses that the check walks over. -/
def heldAddresses (model : Model) : List String :=
  model.placed.map Prod.fst ++ model.orphans.keys

/-- The check passes when it meets no address twice, the index names for each of them the one who
holds it, and it has as many entries as there are addresses. -/
theorem checkOwnership_eq_ok_iff :
    model.checkOwnership = .ok () ↔
      model.heldAddresses.Nodup ∧
        (∀ entry ∈ model.placed, model.owners.get? entry.1 = some (.workspace entry.2)) ∧
        (∀ address ∈ model.orphans.keys, model.owners.get? address = some .orphan) ∧
        model.heldAddresses.length = model.owners.keys.length := by
  have counted : ∀ seen : List String,
      (if seen.length = model.owners.size then return ()
        else .error (.miscounted model.owners.size seen.length) :
        Except OwnershipFault Unit) = .ok () ↔ seen.length = model.owners.keys.length := by
    intro seen
    rw [SortedMap.keys, List.length_map]
    split
    · next same => exact iff_of_true rfl same
    · next different =>
      refine ⟨fun failed => ?_, fun same => absurd same different⟩
      cases failed
  simp only [checkOwnership, bind_eq_ok_iff, counted, foldlM_eq_ok_iff Prod.fst
    checkPlaced_eq_ok_iff, foldlM_eq_ok_iff id checkWaiting_eq_ok_iff, List.map_id, id_eq,
    List.append_nil, List.not_mem_nil, not_false_eq_true, true_and, heldAddresses,
    List.nodup_append', List.length_append]
  constructor
  · rintro ⟨_, ⟨⟨distinct, placed⟩, rfl⟩, _, ⟨⟨waitingDistinct, waiting⟩, rfl⟩, same⟩
    refine ⟨⟨distinct, waitingDistinct, fun address onWorkspace waits => ?_⟩, placed,
      fun address waits => (waiting address waits).2, ?_⟩
    · exact (waiting address waits).1 (List.mem_reverse.mpr onWorkspace)
    · rw [List.length_append, List.length_reverse, List.length_reverse] at same
      omega
  · rintro ⟨⟨distinct, waitingDistinct, apart⟩, placed, waiting, same⟩
    refine ⟨_, ⟨⟨distinct, placed⟩, rfl⟩, _, ⟨⟨waitingDistinct, fun address waits => ⟨?_, ?_⟩⟩,
      rfl⟩, ?_⟩
    · exact fun onWorkspace => apart (List.mem_reverse.mp onWorkspace) waits
    · exact waiting address waits
    · rw [List.length_append, List.length_reverse, List.length_reverse]
      omega

end Walks

/-! ### What the check says -/

theorem SinglyOwned.nodup_placed {model : Model} (singlyOwned : model.SinglyOwned) :
    (model.placed.map Prod.fst).Nodup := by
  have pairs : model.placed.Nodup := by
    refine List.nodup_flatMap.mpr ⟨fun entry _ => ?_, ?_⟩
    · exact entry.2.windows.keys_nodup.map fun one other same => congrArg Prod.fst same
    · refine (List.pairwise_map.mp model.workspaces.keys_nodup).imp fun {one other} apart => ?_
      rintro ⟨address, key⟩ onOne onOther
      obtain ⟨_, -, same⟩ := List.mem_map.mp onOne
      obtain ⟨_, -, otherSame⟩ := List.mem_map.mp onOther
      exact apart ((congrArg Prod.snd same).trans (congrArg Prod.snd otherSame).symm)
  refine pairs.map_on fun one oneMember other otherMember same => ?_
  have oneOwner := (singlyOwned.shown _ _).mpr (mem_placed_iff.mp oneMember)
  have otherOwner := (singlyOwned.shown _ _).mpr (mem_placed_iff.mp otherMember)
  rw [same, otherOwner] at oneOwner
  exact Prod.ext same (Owner.workspace.inj (Option.some.inj oneOwner)).symm

theorem mem_heldAddresses_iff {model : Model} {address : String} :
    address ∈ model.heldAddresses ↔
      (∃ key text, model.textOn? key address = some text) ∨
        ∃ window, model.orphans.get? address = some window := by
  simp only [heldAddresses, List.mem_append, List.mem_map, Prod.exists, exists_and_right,
    exists_eq_right, mem_placed_iff, SortedMap.mem_keys_iff]

/-- A check that passes has met every window that the index names. -/
theorem mem_heldAddresses_of_checkOwnership {model : Model}
    (passed : model.checkOwnership = .ok ()) {address : String} {owner : Owner}
    (found : model.owners.get? address = some owner) : address ∈ model.heldAddresses := by
  obtain ⟨distinct, placed, waiting, counted⟩ := checkOwnership_eq_ok_iff.mp passed
  have indexed : ∀ held ∈ model.heldAddresses, held ∈ model.owners.keys := by
    intro held member
    rcases List.mem_append.mp member with shown | waits
    · obtain ⟨entry, entryMember, rfl⟩ := List.mem_map.mp shown
      exact SortedMap.mem_keys_iff.mpr ⟨_, placed entry entryMember⟩
    · exact SortedMap.mem_keys_iff.mpr ⟨_, waiting held waits⟩
  -- As many are indexed as are held, so none is indexed that is not held.
  have all : model.heldAddresses.Perm model.owners.keys :=
    (List.subperm_of_subset distinct indexed).perm_of_length_le (Nat.le_of_eq counted.symm)
  exact all.symm.subset (SortedMap.mem_keys_iff.mpr ⟨owner, found⟩)

theorem singlyOwned_of_checkOwnership {model : Model} (passed : model.checkOwnership = .ok ()) :
    model.SinglyOwned := by
  obtain ⟨-, placed, waiting, -⟩ := checkOwnership_eq_ok_iff.mp passed
  have onWorkspace : ∀ address key, (∃ text, model.textOn? key address = some text) →
      model.owners.get? address = some (.workspace key) :=
    fun address key shown => placed (address, key) (mem_placed_iff.mpr shown)
  have asOrphan : ∀ address, (∃ window, model.orphans.get? address = some window) →
      model.owners.get? address = some .orphan :=
    fun address waits => waiting address (SortedMap.mem_keys_iff.mpr waits)
  constructor
  · refine fun address key => ⟨fun found => ?_, onWorkspace address key⟩
    rcases mem_heldAddresses_iff.mp (mem_heldAddresses_of_checkOwnership passed found) with
      ⟨other, shown⟩ | waits
    · have onOther := onWorkspace address other shown
      rw [found] at onOther
      rw [Owner.workspace.inj (Option.some.inj onOther)]
      exact shown
    · cases found.symm.trans (asOrphan address waits)
  · refine fun address => ⟨fun found => ?_, asOrphan address⟩
    rcases mem_heldAddresses_iff.mp (mem_heldAddresses_of_checkOwnership passed found) with
      ⟨key, shown⟩ | waits
    · cases found.symm.trans (onWorkspace address key shown)
    · exact waits

theorem SinglyOwned.checkOwnership {model : Model} (singlyOwned : model.SinglyOwned) :
    model.checkOwnership = .ok () := by
  have placed : ∀ entry ∈ model.placed, model.owners.get? entry.1 = some (.workspace entry.2) :=
    fun entry member => (singlyOwned.shown _ _).mpr (mem_placed_iff.mp member)
  have waiting : ∀ address ∈ model.orphans.keys, model.owners.get? address = some .orphan :=
    fun address waits => (singlyOwned.waiting address).mpr (SortedMap.mem_keys_iff.mp waits)
  have distinct : model.heldAddresses.Nodup := by
    refine List.nodup_append'.mpr
      ⟨singlyOwned.nodup_placed, model.orphans.keys_nodup, fun address shown waits => ?_⟩
    obtain ⟨entry, member, rfl⟩ := List.mem_map.mp shown
    cases (placed entry member).symm.trans (waiting _ waits)
  refine checkOwnership_eq_ok_iff.mpr ⟨distinct, placed, waiting, List.Perm.length_eq ?_⟩
  refine (List.perm_ext_iff_of_nodup distinct model.owners.keys_nodup).mpr fun address => ?_
  rw [mem_heldAddresses_iff, SortedMap.mem_keys_iff]
  constructor
  · rintro (⟨key, shown⟩ | waits)
    · exact ⟨_, (singlyOwned.shown address key).mpr shown⟩
    · exact ⟨_, (singlyOwned.waiting address).mpr waits⟩
  · rintro ⟨key | _, found⟩
    · exact Or.inl ⟨key, (singlyOwned.shown address key).mp found⟩
    · exact Or.inr ((singlyOwned.waiting address).mp found)

/-- The check passes exactly when the index, the workspaces and the windows that wait agree. -/
theorem checkOwnership_iff {model : Model} :
    model.checkOwnership = .ok () ↔ model.SinglyOwned :=
  ⟨singlyOwned_of_checkOwnership, SinglyOwned.checkOwnership⟩

end Model

/-! ### Runs -/

namespace Tracker

/-- At the end of every run with addresses as the compositor writes them the check of ownership
passes: every window has one owner, whom the index names, and waits under its own address if it
waits. -/
theorem singlyOwned_run [Pattern.Engine] (config : BarConfig) {inputs : List Input}
    (addressed : AreAddressed inputs) :
    (run config inputs).model.checkOwnership = .ok () ∧ (run config inputs).model.SinglyOwned ∧
      ∀ address window, (run config inputs).model.orphans.get? address = some window →
        window.address = address := by
  have owned := (sound_run config addressed).1.owned
  exact ⟨Model.checkOwnership_iff.mpr owned.singlyOwned, owned.singlyOwned,
    fun address window waits => (owned.waiting waits).2.1⟩

theorem singlyOwned_sampleRun : AreAddressed sampleRun ∧
    (run {} sampleRun).model.owners.keys = ["ab", "cd"] ∧
    (run {} sampleRun).model.checkOwnership = .ok () ∧ (run {} sampleRun).model.SinglyOwned ∧
      ∀ address window, (run {} sampleRun).model.orphans.get? address = some window →
        window.address = address :=
  ⟨areAddressed_sampleRun, by decide, singlyOwned_run {} areAddressed_sampleRun⟩

end Tracker

end Deskbar
