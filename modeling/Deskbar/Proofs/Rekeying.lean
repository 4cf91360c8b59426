/-
This file shows that keys only tell workspaces apart. Nothing that a bar does when it starts over
depends on the numbers that are given out as keys or on the window that had the focus before: with
keys that start later by some distance, the same work brings about the same workspaces under keys
that are greater by this distance.

So a model is looked at through its rekeying, which moves all its keys up and takes the focus away,
and every operation that starting over is made of commutes with it. For the operations that place
windows this holds because what they read of the focus they only write into the focus again.
-/

import Deskbar.Proofs.Identity

namespace Deskbar

/-! ### Maps with shifted keys -/

namespace SortedMap

variable {Key Value Result : Type}

/-- The map with all keys moved up by a distance and its values changed. -/
def shifted (distance : Nat) (change : Value → Result) (map : SortedMap Nat Value) :
    SortedMap Nat Result :=
  ⟨map.entries.map fun entry => (entry.1 + distance, change entry.2),
    List.Pairwise.map _ (fun _ _ below => by
      rw [Nat.compare_eq_lt] at below ⊢
      exact Nat.add_lt_add_right below distance) map.ascending⟩

section Shifted

variable {distance : Nat} {change : Value → Result} {map : SortedMap Nat Value}

theorem values_shifted : (map.shifted distance change).values = map.values.map change := by
  rw [values, values, shifted, List.map_map, List.map_map]
  rfl

theorem get?_shifted (key : Nat) :
    (map.shifted distance change).get? (key + distance) = (map.get? key).map change := by
  refine Option.ext fun value => ?_
  rw [Option.map_eq_some_iff, get?_eq_some_iff, shifted, List.mem_map]
  constructor
  · rintro ⟨⟨old, origin⟩, member, same⟩
    obtain ⟨moved, rfl⟩ := Prod.mk.inj same
    rw [← Nat.add_right_cancel moved]
    exact ⟨origin, get?_eq_some_iff.mpr member, rfl⟩
  · rintro ⟨origin, found, rfl⟩
    exact ⟨(key, origin), get?_eq_some_iff.mp found, rfl⟩

theorem get?_shifted_of_lt {key : Nat} (below : key < distance) :
    (map.shifted distance change).get? key = none := by
  rw [get?_eq_none_iff, keys, shifted, List.map_map, List.mem_map]
  rintro ⟨entry, -, same⟩
  have moved : entry.1 + distance = key := same
  omega

/-- A map is a shifted one when its keys are out of reach of the distance or are shifted ones. -/
theorem eq_shifted {other : SortedMap Nat Result}
    (below : ∀ key < distance, other.get? key = none)
    (above : ∀ key, other.get? (key + distance) = (map.get? key).map change) :
    other = map.shifted distance change := by
  refine eq_of_get? fun key => ?_
  rcases Nat.lt_or_ge key distance with low | high
  · rw [below key low, get?_shifted_of_lt low]
  · obtain ⟨old, rfl⟩ := Nat.exists_eq_add_of_le' high
    rw [above, get?_shifted]

theorem shifted_insert (key : Nat) (value : Value) :
    (map.insert key value).shifted distance change =
      (map.shifted distance change).insert (key + distance) (change value) := by
  refine (eq_shifted (fun other low => ?_) fun other => ?_).symm
  · rw [get?_insert_of_ne _ _ (by omega), get?_shifted_of_lt low]
  · rw [get?_insert, get?_insert, get?_shifted]
    by_cases same : other = key
    · rw [if_pos same, if_pos (congrArg (· + distance) same), Option.map_some]
    · rw [if_neg same, if_neg fun moved => same (Nat.add_right_cancel moved)]

theorem shifted_modify {before : Value → Value} {after : Result → Result}
    (commutes : ∀ value, change (before value) = after (change value)) (key : Nat) :
    (map.modify key before).shifted distance change =
      (map.shifted distance change).modify (key + distance) after := by
  refine (eq_shifted (fun other low => ?_) fun other => ?_).symm
  · rw [get?_modify_of_ne _ _ (by omega), get?_shifted_of_lt low]
  · rw [get?_modify, get?_modify, get?_shifted]
    by_cases same : other = key
    · rw [if_pos same, if_pos (congrArg (· + distance) same), Option.map_map, Option.map_map]
      exact congrArg (Option.map · _) (funext fun value => (commutes value).symm)
    · rw [if_neg same, if_neg fun moved => same (Nat.add_right_cancel moved)]

end Shifted

section Mapped

variable [Ord Key] [Std.TransOrd Key] [Std.LawfulEqOrd Key] [DecidableEq Key]

theorem mapValues_insert (map : SortedMap Key Value) (change : Value → Result) (key : Key)
    (value : Value) :
    (map.insert key value).mapValues change = (map.mapValues change).insert key (change value) := by
  refine eq_of_get? fun other => ?_
  rw [get?_mapValues, get?_insert, get?_insert, get?_mapValues]
  split <;> rfl

theorem mapValues_erase (map : SortedMap Key Value) (change : Value → Result) (key : Key) :
    (map.erase key).mapValues change = (map.mapValues change).erase key := by
  refine eq_of_get? fun other => ?_
  rw [get?_mapValues, get?_erase, get?_erase, get?_mapValues]
  split <;> rfl

end Mapped

end SortedMap

/-! ### Rekeyed models -/

/-- Who has a window when the keys are greater by a distance. -/
def Owner.rekey (distance : Nat) : Owner → Owner
  | .workspace key => .workspace (key + distance)
  | .orphan => .orphan

namespace Workspace

/-- The workspace under a key that is greater by a distance. -/
def renumber (distance : Nat) (workspace : Workspace) : Workspace :=
  { workspace with key := workspace.key + distance }

/-- The workspace under a key that is greater by a distance, without the focus. -/
def rekey (distance : Nat) (workspace : Workspace) : Workspace :=
  (workspace.focusOn none).renumber distance

theorem rekey_dismiss (distance : Nat) (workspace : Workspace) (address : String) :
    (workspace.dismiss address).rekey distance = (workspace.rekey distance).dismiss address := by
  show _ = { workspace.rekey distance with
    windows := workspace.windows.erase address
    focused := if (workspace.rekey distance).hasFocusOn address then none else none }
  rw [ite_self]
  rfl

theorem rekey_takeIn (rewriter : Rewriter) (window : Window) (distance : Nat)
    (workspace : Workspace) :
    (workspace.takeIn rewriter window).rekey distance =
      (workspace.rekey distance).takeIn rewriter (window.withFocus false) := by
  rw [takeIn, takeIn]
  show Workspace.rekey distance (if window.isBlank rewriter.readsTitle || _ then _ else _) =
    if window.isBlank rewriter.readsTitle || (window.text rewriter).isEmpty then _ else _
  split <;> rfl

end Workspace

namespace Model

/-- The model with keys that are greater by a distance, without the focus. -/
def rekey (distance : Nat) (model : Model) : Model :=
  { workspaces := model.workspaces.shifted distance (Workspace.rekey distance)
    owners := model.owners.mapValues (Owner.rekey distance)
    orphans := model.orphans.mapValues fun window => window.withFocus false
    focused := none
    lastKey := model.lastKey + distance }

variable (distance : Nat)

/-! ### Lookups -/

theorem get?_rekey (model : Model) (key : Nat) :
    (model.rekey distance).workspaces.get? (key + distance) =
      (model.workspaces.get? key).map (Workspace.rekey distance) :=
  SortedMap.get?_shifted key

/-- A lookup that looks at neither the key nor the focus finds the same workspace. -/
theorem first?_rekey {test : Workspace → Bool}
    (blind : ∀ workspace, test (workspace.rekey distance) = test workspace) (model : Model) :
    (model.rekey distance).first? test = (model.first? test).map (Workspace.rekey distance) := by
  have same : test ∘ Workspace.rekey distance = test := funext blind
  rw [first?, first?, rekey, SortedMap.values_shifted, List.find?_map, same]

theorem named?_rekey (model : Model) (name : String) :
    (model.rekey distance).named? name =
      (model.named? name).map (Workspace.rekey distance) := by
  rw [named?, named?, first?_rekey, first?_rekey, Option.map_or]
  · exact fun _ => rfl
  · exact fun _ => rfl

theorem forReport?_rekey (model : Model) (report : ReportedWorkspace) :
    (model.rekey distance).forReport? report =
      (model.forReport? report).map (Workspace.rekey distance) := by
  rw [forReport?, forReport?, withId?, withId?, first?_rekey, first?_rekey, Option.map_or]
  · exact fun _ => rfl
  · exact fun _ => rfl

/-! ### Windows -/

theorem rekey_update (before after : Workspace → Workspace)
    (commutes : ∀ workspace, (before workspace).rekey distance = after (workspace.rekey distance))
    (key : Nat) (model : Model) :
    (model.update key before).rekey distance =
      (model.rekey distance).update (key + distance) after := by
  rw [update, update, rekey, SortedMap.shifted_modify commutes]
  rfl

theorem rekey_eraseOwner (address : String) (model : Model) :
    { model with owners := model.owners.erase address }.rekey distance =
      { model.rekey distance with owners := (model.rekey distance).owners.erase address } := by
  rw [rekey, SortedMap.mapValues_erase]
  rfl

theorem rekey_withdraw (address : String) (model : Model) :
    (model.withdraw address).2.rekey distance = ((model.rekey distance).withdraw address).2 := by
  have owner : (model.rekey distance).owners.get? address =
      (model.owners.get? address).map (Owner.rekey distance) := SortedMap.get?_mapValues ..
  rw [withdraw, withdraw, owner]
  cases model.owners.get? address with
  | none => rfl
  | some owner =>
    cases owner with
    | workspace key =>
      simp only [Option.map_some, Owner.rekey, get?_rekey]
      cases model.workspaces.get? key with
      | none => exact rekey_eraseOwner ..
      | some workspace =>
        have dismissed : ∀ workspace : Workspace, (workspace.dismiss address).rekey distance =
            (workspace.rekey distance).dismiss address :=
          fun workspace => workspace.rekey_dismiss distance address
        exact (rekey_update distance _ _ dismissed key _).trans
          (congrArg (update _ _) (rekey_eraseOwner ..))
    | orphan =>
      simp only [Option.map_some, Owner.rekey]
      rw [rekey, SortedMap.mapValues_erase, SortedMap.mapValues_erase]
      rfl

theorem rekey_place (bar : Bar) (key : Nat) (window : Window) (model : Model) :
    (model.place bar key window).rekey distance =
      (model.rekey distance).place bar (key + distance) window := by
  rw [place, place, ← rekey_withdraw]
  generalize (model.withdraw window.address).2 = left
  simp only [get?_rekey]
  cases left.workspaces.get? key with
  | none => rfl
  | some workspace =>
    have taken : ((workspace.takeIn bar.rewriter
          (window.withFocus (left.hasFocusOn window.address))).rekey distance) =
        (workspace.rekey distance).takeIn bar.rewriter
          (window.withFocus ((left.rekey distance).hasFocusOn window.address)) :=
      Workspace.rekey_takeIn ..
    simp only [Option.map_some, ← taken]
    generalize workspace.takeIn bar.rewriter _ = full
    have updated : (left.update key fun _ => full).rekey distance =
        (left.rekey distance).update (key + distance) fun _ => full.rekey distance :=
      rekey_update distance (fun _ => full) (fun _ => full.rekey distance) (fun _ => rfl) key left
    rw [← updated]
    show rekey distance (if full.holds window.address then _ else _) =
      if full.holds window.address then _ else _
    split
    · rw [rekey, SortedMap.mapValues_insert]
      rfl
    · rfl

/-! ### Windows that wait -/

theorem waitingFor_rekey (reference : String) (model : Model) :
    (model.rekey distance).waitingFor reference = model.waitingFor reference := by
  have entries : (model.rekey distance).orphans.entries = model.orphans.entries.map fun entry =>
      (entry.1, entry.2.withFocus false) := rfl
  rw [waitingFor, waitingFor, entries, List.filter_map, List.map_map]
  rfl

theorem rekey_claimOne (bar : Bar) (key : Nat) (model : Model) (address : String) :
    (model.claimOne bar key address).rekey distance =
      (model.rekey distance).claimOne bar (key + distance) address := by
  have waiting : (model.rekey distance).orphans.get? address =
      (model.orphans.get? address).map fun window => window.withFocus false :=
    SortedMap.get?_mapValues ..
  rw [claimOne, claimOne, waiting]
  cases model.orphans.get? address with
  | none => rfl
  | some window =>
    have left : { model with
          orphans := model.orphans.erase address
          owners := model.owners.erase address }.rekey distance =
        { model.rekey distance with
          orphans := (model.rekey distance).orphans.erase address
          owners := (model.rekey distance).owners.erase address } := by
      rw [rekey, SortedMap.mapValues_erase, SortedMap.mapValues_erase]
      rfl
    exact (rekey_place distance bar key window _).trans
      (congrArg (place bar (key + distance) window) left)

theorem rekey_claim (bar : Bar) (key : Nat) (model : Model) :
    (model.claim bar key).rekey distance = (model.rekey distance).claim bar (key + distance) := by
  rw [claim, claim, get?_rekey]
  cases model.workspaces.get? key with
  | none => rfl
  | some workspace =>
    simp only [Option.map_some]
    rw [waitingFor_rekey]
    exact (List.foldl_hom (rekey distance) fun model address =>
      (rekey_claimOne distance bar key model address).symm).symm

/-! ### Reports -/

theorem rekey_gatherOne (bar : Bar) (key : Nat) (model : Model) (report : ReportedWindow) :
    (model.gatherOne bar key report).rekey distance =
      (model.rekey distance).gatherOne bar (key + distance) report := by
  have held : ∀ address, (model.rekey distance).owners.get? address =
      some (.workspace (key + distance)) ↔
        model.owners.get? address = some (.workspace key) := by
    intro address
    have owner : (model.rekey distance).owners.get? address =
        (model.owners.get? address).map (Owner.rekey distance) := SortedMap.get?_mapValues ..
    rw [owner]
    rcases model.owners.get? address with - | (other | -) <;> simp [Owner.rekey]
  rw [gatherOne, gatherOne]
  simp only [held]
  split
  · rfl
  · exact rekey_place ..

theorem rekey_gather (bar : Bar) (snapshot : Snapshot) (key : Nat) (id : Int) (model : Model) :
    (model.gather bar snapshot key id).rekey distance =
      (model.rekey distance).gather bar snapshot (key + distance) id :=
  (List.foldl_hom (rekey distance) fun model report =>
    (rekey_gatherOne distance bar key model report).symm).symm

/-- A workspace that is added takes a key that is greater by the distance. -/
theorem rekey_insert (added : Nat → Workspace)
    (moves : ∀ key, (added key).rekey distance = added (key + distance)) (model : Model) :
    { model with
      workspaces := model.workspaces.insert (model.lastKey + 1) (added (model.lastKey + 1))
      lastKey := model.lastKey + 1 }.rekey distance =
      { model.rekey distance with
        workspaces := (model.rekey distance).workspaces.insert ((model.rekey distance).lastKey + 1)
          (added ((model.rekey distance).lastKey + 1))
        lastKey := (model.rekey distance).lastKey + 1 } := by
  rw [rekey, SortedMap.shifted_insert, moves, Nat.add_right_comm]
  rfl

theorem rekey_create (bar : Bar) (report : ReportedWorkspace) (model : Model) :
    (model.create bar report).rekey distance = (model.rekey distance).create bar report :=
  rekey_insert distance (fun key =>
    { Workspace.ofReport key report with
      flags := { (Workspace.ofReport key report).flags with
        persistentConfig := bar.declares (Workspace.ofReport key report).name } })
    (fun _ => rfl) model

theorem rekey_ensure (bar : Bar) (snapshot : Snapshot) (report : ReportedWorkspace)
    (model : Model) :
    (model.ensure bar snapshot report).rekey distance =
      (model.rekey distance).ensure bar snapshot report := by
  cases taken : bar.takesReport report with
  | false => rw [ensure_of_refused taken, ensure_of_refused taken]
  | true =>
    cases found : model.forReport? report with
    | some workspace =>
      have other := (forReport?_rekey distance model report).trans (congrArg _ found)
      have adopted : (model.update workspace.key fun workspace =>
            workspace.adopt report).rekey distance =
          (model.rekey distance).update (workspace.key + distance) fun workspace =>
            workspace.adopt report :=
        rekey_update distance (Workspace.adopt · report) (Workspace.adopt · report) (fun _ => rfl)
          workspace.key model
      rw [ensure_of_found taken snapshot found, ensure_of_found taken snapshot other]
      show rekey distance (if workspace.id.isSome then _ else _) =
        if workspace.id.isSome then _ else _
      split
      · rw [rekey_claim, adopted]
        rfl
      · rw [rekey_claim, rekey_gather, adopted]
        rfl
    | none =>
      have other := (forReport?_rekey distance model report).trans (congrArg _ found)
      rw [ensure_of_missing taken snapshot found, ensure_of_missing taken snapshot other,
        rekey_claim, rekey_gather, rekey_create, Nat.add_right_comm]
      rfl

/-! ### Starting over -/

theorem rekey_addDeclared (bar : Bar) (model : Model) (raw : String) :
    (model.addDeclared bar raw).rekey distance = (model.rekey distance).addDeclared bar raw := by
  rw [addDeclared, addDeclared, named?_rekey, Option.isNone_map]
  dsimp only
  split
  · exact rekey_insert distance
      (fun key => Workspace.declared key raw (bar.config.output.getD "")) (fun _ => rfl) model
  · rfl

theorem rekey_ensureAll (bar : Bar) (snapshot : Snapshot) (excluded : List String)
    (model : Model) :
    (model.ensureAll bar snapshot excluded).rekey distance =
      (model.rekey distance).ensureAll bar snapshot excluded :=
  (List.foldl_hom (rekey distance) fun model report =>
    (rekey_ensure distance bar snapshot report model).symm).symm

theorem rekey_addAllDeclared (bar : Bar) (model : Model) :
    (model.addAllDeclared bar).rekey distance = (model.rekey distance).addAllDeclared bar :=
  (List.foldl_hom (rekey distance) fun model raw =>
    (rekey_addDeclared distance bar model raw).symm).symm

end Model

/-- A model that starts over comes to what a new one comes to, under keys that follow its own. -/
theorem Model.rekey_startOver (bar : Bar) (snapshot : Snapshot) (model : Model) :
    (model.startOver bar snapshot).rekey 0 =
      (empty.startOver bar snapshot).rekey model.lastKey := by
  have cleared : ∀ model : Model, (model.startOver bar snapshot) =
      (ensureAll bar snapshot []
        { model with
          workspaces := SortedMap.empty
          owners := SortedMap.empty
          orphans := SortedMap.empty }).addAllDeclared bar := fun _ => rfl
  rw [cleared, cleared, rekey_addAllDeclared, rekey_addAllDeclared, rekey_ensureAll,
    rekey_ensureAll]
  simp only [rekey, empty, Nat.zero_add, Nat.add_zero]
  rfl

end Deskbar
