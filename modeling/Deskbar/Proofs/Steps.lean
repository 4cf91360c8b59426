/-
This file takes the work on workspaces apart. Whatever is announced and reported, a tick replaces
workspaces, lets them claim windows, removes them, takes in reports and adds declared workspaces. So
a relation that holds from before each of these steps to after it, and from the first of two steps
to the last, holds from before the work to after it. An invariant is one such relation: the model
after has it if the model before does.
-/

import Deskbar.Model.Workspaces

namespace Deskbar.Model

/-- A relation between models that each step of the work on workspaces keeps up with. A workspace is
replaced by one with its key, its id, its windows and its focus. -/
structure Stepwise (bar : Bar) (snapshot : Snapshot) (relates : Model → Model → Prop) : Prop where
  refl : ∀ model, relates model model
  trans : ∀ {first second third}, relates first second → relates second third →
    relates first third
  replace : ∀ {model key workspace replacement}, model.workspaces.get? key = some workspace →
    replacement.key = workspace.key → replacement.id = workspace.id →
      replacement.windows = workspace.windows → replacement.focused = workspace.focused →
        relates model (model.update key fun _ => replacement)
  claim : ∀ model key, relates model (model.claim bar key)
  remove : ∀ model key, relates model (model.remove snapshot key)
  ensure : ∀ model report, relates model (model.ensure bar snapshot report)
  declare : ∀ model raw, relates model (model.addDeclared bar raw)

namespace Stepwise

variable {bar : Bar} {snapshot : Snapshot} {relates : Model → Model → Prop}

theorem foldl (stepwise : Stepwise bar snapshot relates) {Item : Type}
    {step : Model → Item → Model} (related : ∀ model item, relates model (step model item))
    (items : List Item) (model : Model) : relates model (items.foldl step model) :=
  List.foldlRecOn items step (stepwise.refl model)
    fun next earlier item _ => stepwise.trans earlier (related next item)

theorem ensureNamed (stepwise : Stepwise bar snapshot relates) (model : Model) (raw : String) :
    relates model (model.ensureNamed bar snapshot raw) := by
  rw [Model.ensureNamed]
  split
  · exact stepwise.ensure model _
  · exact stepwise.refl model

theorem rename (stepwise : Stepwise bar snapshot relates) (model : Model) (key : Nat)
    (raw : String) : relates model (model.rename bar snapshot key raw) := by
  unfold Model.rename
  split
  · exact stepwise.refl model
  · next workspace present =>
    dsimp only
    split
    · refine stepwise.trans ?_ (stepwise.claim _ key)
      exact stepwise.replace present rfl rfl rfl rfl
    · refine stepwise.trans ?_ (stepwise.remove _ key)
      exact stepwise.replace present rfl rfl rfl rfl

theorem relocate (stepwise : Stepwise bar snapshot relates) (model : Model) (key : Nat)
    (output : String) : relates model (model.relocate bar snapshot key output) := by
  unfold Model.relocate
  split
  · exact stepwise.refl model
  · next workspace present =>
    dsimp only
    split
    · exact stepwise.replace present rfl rfl rfl rfl
    · refine stepwise.trans ?_ (stepwise.remove _ key)
      exact stepwise.replace present rfl rfl rfl rfl

theorem removeIfDestroyed (stepwise : Stepwise bar snapshot relates) (model : Model)
    (change : WorkspaceChange) : relates model (model.removeIfDestroyed snapshot change) := by
  cases change with
  | destroyed id raw =>
    rw [Model.removeIfDestroyed]
    split
    · exact stepwise.remove model _
    · exact stepwise.refl model
  | _ => exact stepwise.refl model

theorem applyChange (stepwise : Stepwise bar snapshot relates) (model : Model)
    (change : WorkspaceChange) : relates model (model.applyChange bar snapshot change) := by
  cases change with
  | destroyed id raw => exact stepwise.refl model
  | created id raw =>
    rw [Model.applyChange.eq_def]
    dsimp only
    split
    · exact stepwise.ensure model _
    · exact stepwise.refl model
  | renamed id raw =>
    rw [Model.applyChange]
    split
    · exact stepwise.rename model _ raw
    · exact stepwise.refl model
  | moved raw monitor =>
    rw [Model.applyChange]
    split
    · exact stepwise.relocate model _ monitor
    · exact stepwise.ensureNamed model raw
  | activated raw =>
    rw [Model.applyChange]
    split
    · exact stepwise.refl model
    · exact stepwise.ensureNamed model raw

theorem applyChanges (stepwise : Stepwise bar snapshot relates) (changes : List WorkspaceChange)
    (model : Model) : relates model (model.applyChanges bar snapshot changes) :=
  stepwise.foldl stepwise.applyChange changes model

/-- The announced changes are carried out, the removals first. -/
theorem announced (stepwise : Stepwise bar snapshot relates) (changes : List WorkspaceChange)
    (model : Model) : relates model ((model.removeDestroyed snapshot changes).applyChanges bar
      snapshot changes) :=
  stepwise.trans (stepwise.foldl stepwise.removeIfDestroyed changes model)
    (stepwise.applyChanges changes (model.removeDestroyed snapshot changes))

theorem align (stepwise : Stepwise bar snapshot relates) (excluded : List String)
    (model : Model) : relates model (model.align bar snapshot excluded) :=
  stepwise.trans (stepwise.foldl stepwise.remove _ model)
    (stepwise.foldl stepwise.ensure _ (model.removeStale bar snapshot))

theorem addAllDeclared (stepwise : Stepwise bar snapshot relates) (model : Model) :
    relates model (model.addAllDeclared bar) :=
  stepwise.foldl stepwise.declare bar.persistent model

/-- All that a tick does before it comes to the changes of windows. -/
theorem beforeWindowChanges (stepwise : Stepwise bar snapshot relates)
    (changes : List WorkspaceChange) (model : Model) :
    relates model ((((model.removeDestroyed snapshot changes).applyChanges bar snapshot
      changes).align bar snapshot (changes.filterMap destroyedName?)).addAllDeclared bar) :=
  stepwise.trans (stepwise.announced changes model)
    (stepwise.trans (stepwise.align (changes.filterMap destroyedName?) _)
      (stepwise.addAllDeclared _))

end Stepwise

end Deskbar.Model
