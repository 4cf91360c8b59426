/-
This file proves which documents are read as reports. The fields of each report are set down in a
table, with the kinds of their values and their defaults, and each reader is shown to go by its
table. A reference to a workspace has a table of its own, and is the kind of some of the fields.
-/

import Deskbar.Proofs.Shapes

namespace Deskbar

/-! ### The tables -/

/-- The fields of a reference to a workspace. -/
def WorkspaceReference.shape : Shape WorkspaceReference where
  fields := [
    { name := "id", kind := .word64, default? := some 0, get := id },
    { name := "name", kind := .text, default? := some "", get := name }]
  distinct := by decide
  defaults_fit := by simp [Kind.word64, Kind.text, Kind.plain]
  combine := by
    intro Holds given
    simp only [List.forall_mem_cons] at given ⊢
    obtain ⟨⟨id, ofId⟩, ⟨name, ofName⟩, -⟩ := given
    exact ⟨{ id, name }, ofId, ofName, List.forall_mem_nil _⟩

/-- The fields of the report of a workspace. -/
def ReportedWorkspace.shape : Shape ReportedWorkspace where
  fields := [
    { name := "id", kind := .word64, default? := none, get := id },
    { name := "name", kind := .text, default? := none, get := name },
    { name := "monitor", kind := .text, default? := some "", get := monitor },
    { name := "windows", kind := .count, default? := some 0, get := windows },
    { name := "ispersistent", kind := .truth, default? := some false, get := persistent }]
  distinct := by decide
  defaults_fit := by simp [Kind.count, Kind.truth, Kind.text, Kind.plain]
  combine := by
    intro Holds given
    simp only [List.forall_mem_cons] at given ⊢
    obtain ⟨⟨id, ofId⟩, ⟨name, ofName⟩, ⟨monitor, ofMonitor⟩, ⟨windows, ofWindows⟩,
      ⟨persistent, ofPersistent⟩, -⟩ := given
    exact ⟨{ id, name, monitor, windows, persistent }, ofId, ofName, ofMonitor, ofWindows,
      ofPersistent, List.forall_mem_nil _⟩

/-- The fields of the report of a monitor. -/
def ReportedMonitor.shape : Shape ReportedMonitor where
  fields := [
    { name := "id", kind := .word64, default? := some 0, get := id },
    { name := "name", kind := .text, default? := none, get := name },
    { name := "x", kind := .word32, default? := some 0, get := x },
    { name := "y", kind := .word32, default? := some 0, get := y },
    { name := "focused", kind := .truth, default? := some false, get := focused },
    { name := "activeWorkspace", kind := WorkspaceReference.shape.kind, default? := some {},
      get := active },
    { name := "specialWorkspace", kind := WorkspaceReference.shape.kind, default? := some {},
      get := special }]
  distinct := by decide
  defaults_fit := by
    simp [Kind.word64, Kind.word32, Kind.truth, Kind.text, Kind.plain, Shape.kind,
      WorkspaceReference.shape]
  combine := by
    intro Holds given
    simp only [List.forall_mem_cons] at given ⊢
    obtain ⟨⟨id, ofId⟩, ⟨name, ofName⟩, ⟨x, ofX⟩, ⟨y, ofY⟩, ⟨focused, ofFocused⟩,
      ⟨active, ofActive⟩, ⟨special, ofSpecial⟩, -⟩ := given
    exact ⟨{ id, name, x, y, focused, active, special }, ofId, ofName, ofX, ofY, ofFocused,
      ofActive, ofSpecial, List.forall_mem_nil _⟩

/-- The fields of the report of a window. -/
def ReportedWindow.shape : Shape ReportedWindow where
  fields := [
    { name := "address", kind := .text, default? := none, get := address },
    { name := "class", kind := .text, default? := some "", get := windowClass },
    { name := "title", kind := .text, default? := some "", get := title },
    { name := "workspace", kind := WorkspaceReference.shape.kind, default? := some {},
      get := workspace },
    { name := "focusHistoryID", kind := .word64, default? := some (-1), get := focusRank }]
  distinct := by decide
  defaults_fit := by
    simp [Kind.word64, Kind.text, Kind.plain, Shape.kind, WorkspaceReference.shape]
  combine := by
    intro Holds given
    simp only [List.forall_mem_cons] at given ⊢
    obtain ⟨⟨address, ofAddress⟩, ⟨windowClass, ofClass⟩, ⟨title, ofTitle⟩,
      ⟨workspace, ofWorkspace⟩, ⟨focusRank, ofRank⟩, -⟩ := given
    exact ⟨{ address, windowClass, title, workspace, focusRank }, ofAddress, ofClass, ofTitle,
      ofWorkspace, ofRank, List.forall_mem_nil _⟩

/-- The fields of the report of a rule. -/
def ReportedRule.shape : Shape ReportedRule where
  fields := [
    { name := "workspaceString", kind := .text, default? := none, get := workspace },
    { name := "monitor", kind := .nullableText, default? := some none, get := monitor },
    { name := "persistent", kind := .truth, default? := some false, get := persistent }]
  distinct := by decide
  defaults_fit := by simp [Kind.truth, Kind.nullableText, Kind.plain]
  combine := by
    intro Holds given
    simp only [List.forall_mem_cons] at given ⊢
    obtain ⟨⟨workspace, ofWorkspace⟩, ⟨monitor, ofMonitor⟩, ⟨persistent, ofPersistent⟩, -⟩ := given
    exact ⟨{ workspace, monitor, persistent }, ofWorkspace, ofMonitor, ofPersistent,
      List.forall_mem_nil _⟩

/-! ### The readers -/

section Readers

open Kind

theorem WorkspaceReference.isReadBy : shape.kind.IsReadBy read? := by
  refine Shape.isReadBy_bind fun offers record => ?_
  split
  · simp only [Option.bind_eq_bind, Option.bind_eq_some_iff, optional_eq_some_iff word64_isReadBy,
      optional_eq_some_iff text_isReadBy, shape, List.forall₂_cons]
    constructor
    · rintro ⟨id, ofId, name, ofName, ⟨⟩⟩
      exact ⟨ofId, ofName, .nil⟩
    · rintro ⟨ofId, ofName, -⟩
      exact ⟨_, ofId, _, ofName, rfl⟩
  · rename_i other
    refine iff_of_false nofun ?_
    rintro (_ | ⟨_, _ | ⟨_, _ | _⟩⟩)
    exact other _ _ rfl

theorem ReportedWorkspace.isReadBy : shape.kind.IsReadBy read? := by
  refine Shape.isReadBy_bind fun offers record => ?_
  split
  · simp only [Option.bind_eq_bind, Option.bind_eq_some_iff, required_eq_some_iff word64_isReadBy,
      required_eq_some_iff text_isReadBy, optional_eq_some_iff text_isReadBy,
      optional_eq_some_iff count_isReadBy, optional_eq_some_iff truth_isReadBy, shape,
      List.forall₂_cons]
    constructor
    · rintro ⟨id, ofId, name, ofName, monitor, ofMonitor, windows, ofWindows, persistent,
        ofPersistent, ⟨⟩⟩
      exact ⟨ofId, ofName, ofMonitor, ofWindows, ofPersistent, .nil⟩
    · rintro ⟨ofId, ofName, ofMonitor, ofWindows, ofPersistent, -⟩
      exact ⟨_, ofId, _, ofName, _, ofMonitor, _, ofWindows, _, ofPersistent, rfl⟩
  · rename_i other
    refine iff_of_false nofun ?_
    rintro (_ | ⟨_, _ | ⟨_, _ | ⟨_, _ | ⟨_, _ | ⟨_, _ | _⟩⟩⟩⟩⟩)
    exact other _ _ _ _ _ rfl

theorem ReportedMonitor.isReadBy : shape.kind.IsReadBy read? := by
  refine Shape.isReadBy_bind fun offers record => ?_
  split
  · simp only [Option.bind_eq_bind, Option.bind_eq_some_iff, optional_eq_some_iff word64_isReadBy,
      required_eq_some_iff text_isReadBy, optional_eq_some_iff word32_isReadBy,
      optional_eq_some_iff truth_isReadBy, optional_eq_some_iff WorkspaceReference.isReadBy, shape,
      List.forall₂_cons]
    constructor
    · rintro ⟨id, ofId, name, ofName, x, ofX, y, ofY, focused, ofFocused, active, ofActive, special,
        ofSpecial, ⟨⟩⟩
      exact ⟨ofId, ofName, ofX, ofY, ofFocused, ofActive, ofSpecial, .nil⟩
    · rintro ⟨ofId, ofName, ofX, ofY, ofFocused, ofActive, ofSpecial, -⟩
      exact ⟨_, ofId, _, ofName, _, ofX, _, ofY, _, ofFocused, _, ofActive, _, ofSpecial, rfl⟩
  · rename_i other
    refine iff_of_false nofun ?_
    rintro (_ | ⟨_, _ | ⟨_, _ | ⟨_, _ | ⟨_, _ | ⟨_, _ | ⟨_, _ | ⟨_, _ | _⟩⟩⟩⟩⟩⟩⟩)
    exact other _ _ _ _ _ _ _ rfl

theorem ReportedWindow.isReadBy : shape.kind.IsReadBy read? := by
  refine Shape.isReadBy_bind fun offers record => ?_
  split
  · simp only [Option.bind_eq_bind, Option.bind_eq_some_iff, required_eq_some_iff text_isReadBy,
      optional_eq_some_iff text_isReadBy, optional_eq_some_iff WorkspaceReference.isReadBy,
      optional_eq_some_iff word64_isReadBy, shape, List.forall₂_cons]
    constructor
    · rintro ⟨address, ofAddress, windowClass, ofClass, title, ofTitle, workspace, ofWorkspace,
        focusRank, ofRank, ⟨⟩⟩
      exact ⟨ofAddress, ofClass, ofTitle, ofWorkspace, ofRank, .nil⟩
    · rintro ⟨ofAddress, ofClass, ofTitle, ofWorkspace, ofRank, -⟩
      exact ⟨_, ofAddress, _, ofClass, _, ofTitle, _, ofWorkspace, _, ofRank, rfl⟩
  · rename_i other
    refine iff_of_false nofun ?_
    rintro (_ | ⟨_, _ | ⟨_, _ | ⟨_, _ | ⟨_, _ | ⟨_, _ | _⟩⟩⟩⟩⟩)
    exact other _ _ _ _ _ rfl

theorem ReportedRule.isReadBy : shape.kind.IsReadBy read? := by
  refine Shape.isReadBy_bind fun offers record => ?_
  split
  · simp only [Option.bind_eq_bind, Option.bind_eq_some_iff, required_eq_some_iff text_isReadBy,
      optional_eq_some_iff nullableText_isReadBy, optional_eq_some_iff truth_isReadBy, shape,
      List.forall₂_cons]
    constructor
    · rintro ⟨workspace, ofWorkspace, monitor, ofMonitor, persistent, ofPersistent, ⟨⟩⟩
      exact ⟨ofWorkspace, ofMonitor, ofPersistent, .nil⟩
    · rintro ⟨ofWorkspace, ofMonitor, ofPersistent, -⟩
      exact ⟨_, ofWorkspace, _, ofMonitor, _, ofPersistent, rfl⟩
  · rename_i other
    refine iff_of_false nofun ?_
    rintro (_ | ⟨_, _ | ⟨_, _ | ⟨_, _ | _⟩⟩⟩)
    exact other _ _ _ rfl

/-- The reports of workspaces, monitors, windows and rules are read by their tables, and so are
references to workspaces within them. Only the monitor of a rule may be null. -/
theorem reports_decode_by_fields :
    ReportedWorkspace.shape.Decodes ReportedWorkspace.read? [] ∧
      ReportedMonitor.shape.Decodes ReportedMonitor.read? [] ∧
      ReportedWindow.shape.Decodes ReportedWindow.read? [] ∧
      ReportedRule.shape.Decodes ReportedRule.read? ["monitor"] ∧
      WorkspaceReference.shape.Decodes WorkspaceReference.read? [] := by
  refine ⟨Shape.decodes_of_isReadBy ReportedWorkspace.isReadBy ?_,
    Shape.decodes_of_isReadBy ReportedMonitor.isReadBy ?_,
    Shape.decodes_of_isReadBy ReportedWindow.isReadBy ?_,
    Shape.decodes_of_isReadBy ReportedRule.isReadBy ?_,
    Shape.decodes_of_isReadBy WorkspaceReference.isReadBy ?_⟩
  · simp [ReportedWorkspace.shape, plain_takesNull_iff, word64, text, count, truth, Json.whole]
  · simp [ReportedMonitor.shape, plain_takesNull_iff, word64, word32, text, truth, Json.whole,
      Shape.kind_not_takesNull]
  · simp [ReportedWindow.shape, plain_takesNull_iff, word64, text, Json.whole,
      Shape.kind_not_takesNull]
  · simp [ReportedRule.shape, plain_takesNull_iff, text, truth, nullableText_takesNull]
  · simp [WorkspaceReference.shape, plain_takesNull_iff, word64, text, Json.whole]

/-- A window of which everything is reported. -/
def notesReport : ReportedWindow :=
  { address := "0x2", windowClass := "editor", title := "notes",
    workspace := { id := 4, name := "4" }, focusRank := 0 }

/-- What is reported of the window, from the last field to the first and with one more member. -/
def notesMembers : List (String × Json) :=
  [("focusHistoryID", .whole 0), ("pid", .whole 7),
    ("workspace", .object [("id", .whole 4), ("name", .string "4")]),
    ("title", .string "notes"), ("class", .string "editor"), ("address", .string "0x2")]

/-- A window whose class is null is passed over, and the next one is read. -/
theorem reports_decode_by_fields_notesReport :
    (∀ field ∈ ReportedWindow.shape.fields, field.kind.Fits (field.get notesReport)) ∧
      Connection.recordsOf ReportedWindow.read? "clients"
        (.array [.object [("address", .string "0x1"), ("class", .null)], .object notesMembers]) =
          .ok [notesReport] := by
  have decodes := reports_decode_by_fields.2.2.1
  have fits : ∀ field ∈ ReportedWindow.shape.fields, field.kind.Fits (field.get notesReport) := by
    simp [ReportedWindow.shape, WorkspaceReference.shape, Shape.kind, text, word64, plain,
      notesReport]
  have reordered : (ReportedWindow.shape.known notesMembers).Perm
      (ReportedWindow.shape.known (ReportedWindow.shape.fields.map fun field =>
        (field.name, field.kind.write (field.get notesReport)))) :=
    (List.reverse_perm (ReportedWindow.shape.known notesMembers)).symm
  have read : ReportedWindow.read? (.object notesMembers) = some notesReport :=
    (decodes.alike notesMembers _ (by decide) reordered).trans (decodes.written notesReport fits)
  have silent : ∀ report, ¬ ReportedWindow.shape.Spells
      (.object [("address", .string "0x1"), ("class", .null)]) report := fun report spelled =>
    nomatch (decodes.spelled _ report).mpr spelled
  exact ⟨fits, (decodes.collected _ _ _).mpr
    ⟨_, rfl, .passed silent (.taken ((decodes.spelled _ _).mp read) .nil)⟩⟩

end Readers

end Deskbar
