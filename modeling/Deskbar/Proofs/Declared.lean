/-
This file shows which of the declared workspaces are on the bar after a tick. A tick adds a declared
workspace unless its name means one that is there, and what is added or found keeps its name until
the tick is over. A name means a workspace that shows it or one that windows refer to by it, so a
declared workspace is there by its own name as long as no other one is referred to in the same way.

References end at the first space. Of two declared names that differ after it only, one is therefore
taken for the other.
-/

import Deskbar.Proofs.Names
import Deskbar.Proofs.Repetition

namespace Deskbar

namespace Model

/-- What a name means is there as long as workspaces are called the same. -/
theorem HasDeclared.of_keepsNames {bar : Bar} {before after : Model} {raw : String}
    (declared : before.HasDeclared bar raw) (kept : before.KeepsNames after) :
    after.HasDeclared bar raw := by
  refine declared.of_names fun key workspace present => ?_
  have name := kept.name key
  have reference := kept.reference key
  rw [nameAt?, nameAt?, present] at name
  rw [referenceAt?, referenceAt?, present] at reference
  obtain ⟨other, otherPresent, sameName⟩ := Option.map_eq_some_iff.mp name
  rw [otherPresent] at reference
  exact ⟨other, otherPresent, sameName, Option.some.inj reference⟩

end Model

namespace Tracker

/-- After a tick in which no destruction was carried out every declared name means a workspace or is
one that the bar does not take in. -/
theorem hasDeclared_nextModel {tracker : Tracker} (identified : tracker.model.Identified)
    {snapshot : Snapshot} (named : snapshot.NamesIds)
    (intact : ∀ id raw, .destroyed id raw ∉ tracker.backlog.workspaces) {raw : String}
    (member : raw ∈ tracker.bar.persistent) :
    (tracker.nextModel snapshot).HasDeclared tracker.bar raw := by
  obtain ⟨origin, model, originIdentified, outlined, same⟩ :=
    exists_aligned_nextModel identified snapshot intact
  have aligned := originIdentified.align tracker.bar snapshot []
  have declared := Model.hasDeclared_addAllDeclared aligned member
  have bears := (Model.bearsReports_align originIdentified tracker.bar named).addAllDeclared
    tracker.bar
  rw [same]
  refine declared.of_keepsNames ((Model.KeepsNames.of_outline outlined).trans ?_)
  exact (bears.of_outline outlined).keepsNames_observe tracker.bar

/-- After every run a tick in which no destruction was carried out leaves a workspace with the name
of each declared workspace that the bar takes in, if the reports under one id have one name and no
workspace of another name is referred to as the declared one. -/
theorem declared_tick [Pattern.Engine] (config : BarConfig) (inputs : List Input)
    {snapshot : Snapshot}
    (named : snapshot.NamesIds)
    (intact : ∀ id raw, .destroyed id raw ∉ (run config inputs).backlog.workspaces) {raw : String}
    (member : raw ∈ (Bar.ofConfig config).persistent)
    (taken : (Bar.ofConfig config).takes (shownName raw) (config.output.getD "")
      (WorkspaceName.parse raw).special = true)
    (unshared : ∀ key workspace,
      ((run config inputs).tick snapshot).model.workspaces.get? key = some workspace →
      workspace.reference = workspaceReference raw → workspace.name = shownName raw) :
    ∃ key workspace,
      ((run config inputs).tick snapshot).model.workspaces.get? key = some workspace ∧
        workspace.name = shownName raw := by
  have bar := bar_run config inputs
  rw [← bar] at member
  have declared := hasDeclared_nextModel (Model.identified_run config inputs) named intact member
  rw [bar] at declared
  rcases declared with there | refused
  · obtain ⟨key, workspace, present, shown | referred⟩ := Model.isSome_named?_iff.mp there
    · exact ⟨key, workspace, present, shown⟩
    · exact ⟨key, workspace, present, unshared key workspace present referred⟩
  · cases taken.symm.trans refused

/-- Two workspaces are declared whose names differ before the space. -/
def declaringConfig : BarConfig :=
  { declarations := [.named "mail 1" [], .named "chat 2" []] }

theorem declared_tick_declaringConfig :
    sampleSnapshot.NamesIds ∧
      (∀ id raw, .destroyed id raw ∉ (run declaringConfig sampleRun).backlog.workspaces) ∧
      "chat 2" ∈ (Bar.ofConfig declaringConfig).persistent ∧
      (Bar.ofConfig declaringConfig).takes (shownName "chat 2")
        (declaringConfig.output.getD "") (WorkspaceName.parse "chat 2").special = true ∧
      (∀ key workspace, ((run declaringConfig sampleRun).tick
        sampleSnapshot).model.workspaces.get? key = some workspace →
          workspace.reference = workspaceReference "chat 2" →
            workspace.name = shownName "chat 2") ∧
      ∃ key workspace, ((run declaringConfig sampleRun).tick
        sampleSnapshot).model.workspaces.get? key = some workspace ∧
          workspace.name = shownName "chat 2" := by
  have named : sampleSnapshot.NamesIds := Snapshot.namesIds_of_distinct (by decide)
  have intact : ∀ id raw,
      .destroyed id raw ∉ (run declaringConfig sampleRun).backlog.workspaces := by
    have idle : (run declaringConfig sampleRun).backlog.workspaces = [] := by decide
    intro id raw
    rw [idle]
    exact List.not_mem_nil
  have unshared : ∀ key workspace, ((run declaringConfig sampleRun).tick
      sampleSnapshot).model.workspaces.get? key = some workspace →
        workspace.reference = workspaceReference "chat 2" →
          workspace.name = shownName "chat 2" := by
    have all : ∀ workspace ∈ ((run declaringConfig sampleRun).tick
        sampleSnapshot).model.workspaces.values,
          workspace.reference = workspaceReference "chat 2" →
            workspace.name = shownName "chat 2" := by decide
    exact fun key workspace present => all workspace (SortedMap.mem_values_iff.mpr ⟨key, present⟩)
  exact ⟨named, intact, by decide, by decide, unshared,
    declared_tick declaringConfig sampleRun named intact (by decide) (by decide) unshared⟩

/-- Two workspaces are declared whose names differ after the space only. -/
def twinConfig : BarConfig :=
  { declarations := [.named "mail 1" [], .named "mail 2" []] }

/-- A workspace is declared, and the snapshot reports one id under that name and another one. -/
def renamingConfig : BarConfig := { declarations := [.named "b" []] }

/-- Reports of one id under two names. -/
def ambiguousSnapshot : Snapshot :=
  { workspaces := [{ id := 1, name := "a" }, { id := 1, name := "b" }] }

/-- A declared workspace is missing when windows refer to another declared one in the same way, and
when its name is only the later one of an id that has two. -/
theorem not_declared_twin :
    ((run twinConfig []).backlog = {} ∧
      "mail 2" ∈ (Bar.ofConfig twinConfig).persistent ∧
      (Bar.ofConfig twinConfig).takes (shownName "mail 2") (twinConfig.output.getD "")
        (WorkspaceName.parse "mail 2").special = true ∧
      ((run twinConfig []).tick {}).model.workspaces.values.map Workspace.name = ["mail 1"]) ∧
    (run renamingConfig []).backlog = {} ∧
      "b" ∈ (Bar.ofConfig renamingConfig).persistent ∧
      (Bar.ofConfig renamingConfig).takes (shownName "b") (renamingConfig.output.getD "")
        (WorkspaceName.parse "b").special = true ∧
      ((run renamingConfig []).tick ambiguousSnapshot).model.workspaces.values.map
        Workspace.name = ["a"] := by
  decide

end Tracker

end Deskbar
