/-
This file has the tables of the options there are: the two sections of a document, the options of
the service, and those of the bar. Loading a document goes by these tables. So the options do not
depend on one another: nodes of different names can change places, nodes that are no option can
come and go, and of several nodes of one name the last one decides, except that the patterns of
names to leave out accumulate.
-/

import Deskbar.Proofs.Settings

namespace Deskbar

/-! ### The tables -/

/-- The time after which a query is given up. -/
def ServiceConfig.requestTimeoutSetting : Setting ServiceConfig where
  name := "request-timeout-ms"
  get := ServiceConfig.requestTimeout
  put := fun config timeout => { config with requestTimeout := timeout }
  read := fun node => do
    let time ← node.countArgument
    return if time = 0 then none else some time
  get_put := fun _ _ => rfl

/-- The time between two refreshes. -/
def ServiceConfig.refreshIntervalSetting : Setting ServiceConfig where
  name := "refresh-interval-ms"
  get := ServiceConfig.refreshInterval
  put := fun config interval => { config with refreshInterval := interval }
  read := fun node => do
    let time ← node.countArgument
    if time = 0 then .error .noRefreshInterval else return time
  get_put := fun _ _ => rfl

/-- The options of the service. -/
def ServiceConfig.sheet : Sheet ServiceConfig where
  settings := [
    { name := "log-level"
      get := ServiceConfig.logLevel
      put := fun config level => { config with logLevel := level }
      read := fun node => do
        match LogLevel.ofName (← node.textArgument) with
        | .ok level => return level
        | .error choice => .error (.unknownChoice choice)
      get_put := fun _ _ => rfl },
    requestTimeoutSetting,
    refreshIntervalSetting]
  distinct := by decide
  apart := by simp [Setting.Apart, requestTimeoutSetting, refreshIntervalSetting]
  ext := by
    rintro ⟨⟩ ⟨⟩ same
    simpa [requestTimeoutSetting, refreshIntervalSetting] using same

/-- How long a window may wait for its workspace. -/
def BarConfig.retryBudgetSetting : Setting BarConfig where
  name := "window-retry-budget"
  get := BarConfig.retryBudget
  put := fun config budget => { config with retryBudget := budget }
  read := fun node => do
    return UInt32.ofNat (min (← node.countArgument) (Text.bitRange 32 - 1))
  get_put := fun _ _ => rfl

/-- The names to leave out, to which every node adds. -/
def BarConfig.ignoredSetting : Setting BarConfig where
  name := "ignore-workspaces"
  get := BarConfig.ignored
  put := fun config ignored => { config with ignored := ignored }
  read := fun node => .ok (node.arguments.filterMap Node.Value.text?)
  join := fun ignored more => ignored ++ more
  get_put := fun _ _ => rfl

/-- The workspaces that are always there. -/
def BarConfig.declarationsSetting : Setting BarConfig where
  name := "persistent-workspaces"
  get := BarConfig.declarations
  put := fun config declarations => { config with declarations := declarations }
  read := fun node => node.children.mapM Declaration.ofNode
  get_put := fun _ _ => rfl

/-- The rules for the texts of windows. -/
def BarConfig.rulesSetting : Setting BarConfig where
  name := "window-rewrite"
  get := BarConfig.rules
  put := fun config rules => { config with rules := rules }
  read := fun node => .ok (node.children.filterMap RewriteRule.ofNode?)
  get_put := fun _ _ => rfl

/-- The options of the bar. -/
def BarConfig.sheet : Sheet BarConfig where
  settings := [
    { name := "output"
      get := BarConfig.output
      put := fun config output => { config with output := output }
      read := fun node => do return some (← node.textArgument)
      get_put := fun _ _ => rfl },
    .switch "all-outputs" BarConfig.allOutputs
      (fun config value => { config with allOutputs := value }) fun _ _ => rfl,
    .switch "show-special" BarConfig.showSpecial
      (fun config value => { config with showSpecial := value }) fun _ _ => rfl,
    .switch "special-visible-only" BarConfig.specialVisibleOnly
      (fun config value => { config with specialVisibleOnly := value }) fun _ _ => rfl,
    .switch "active-only" BarConfig.activeOnly
      (fun config value => { config with activeOnly := value }) fun _ _ => rfl,
    .switch "persistent-only" BarConfig.persistentOnly
      (fun config value => { config with persistentOnly := value }) fun _ _ => rfl,
    .switch "move-to-monitor" BarConfig.moveToMonitor
      (fun config value => { config with moveToMonitor := value }) fun _ _ => rfl,
    { name := "sort-by"
      get := BarConfig.arrangement
      put := fun config arrangement => { config with arrangement := arrangement }
      read := fun node => do
        match Arrangement.ofName (← node.textArgument) with
        | .ok arrangement => return arrangement
        | .error _ => return .byCreation
      get_put := fun _ _ => rfl },
    .text "format" BarConfig.format
      (fun config text => { config with format := text }) fun _ _ => rfl,
    .text "format-window-separator" BarConfig.windowSeparator
      (fun config text => { config with windowSeparator := text }) fun _ _ => rfl,
    retryBudgetSetting,
    ignoredSetting,
    { name := "format-icons"
      get := BarConfig.icons
      put := fun config icons => { config with icons := icons }
      read := BarConfig.iconsOf
      get_put := fun _ _ => rfl },
    declarationsSetting,
    .text "window-rewrite-default" BarConfig.fallback
      (fun config text => { config with fallback := text }) fun _ _ => rfl,
    rulesSetting]
  distinct := by decide
  apart := by
    simp [Setting.Apart, Setting.switch, Setting.text, retryBudgetSetting, ignoredSetting,
      declarationsSetting, rulesSetting]
  ext := by
    rintro ⟨⟩ ⟨⟩ same
    simpa [Setting.switch, Setting.text, retryBudgetSetting, ignoredSetting, declarationsSetting,
      rulesSetting] using same

/-- The section for the service. -/
def Config.serviceSection : Setting Config where
  name := "global"
  get := Config.service
  put := fun config service => { config with service := service }
  read := fun node => node.children.foldlM ServiceConfig.set {}
  get_put := fun _ _ => rfl

/-- The section for the bar. -/
def Config.barSection : Setting Config where
  name := "workspaces"
  get := Config.bar
  put := fun config bar => { config with bar := bar }
  read := fun node => node.children.foldlM BarConfig.set {}
  get_put := fun _ _ => rfl

/-- The sections of a document. -/
def Config.sheet : Sheet Config where
  settings := [serviceSection, barSection]
  distinct := by decide
  apart := by simp [Setting.Apart, serviceSection, barSection]
  ext := by
    rintro ⟨⟩ ⟨⟩ same
    simpa [serviceSection, barSection] using same

theorem Config.serviceSection_mem : serviceSection ∈ Config.sheet.settings :=
  List.mem_cons_self

theorem Config.barSection_mem : barSection ∈ Config.sheet.settings :=
  List.mem_cons_of_mem _ List.mem_cons_self

/-! ### Loading goes by the tables -/

theorem ServiceConfig.set_eq : ServiceConfig.set = sheet.set := by
  funext config node
  unfold ServiceConfig.set
  split
  -- What an option makes of its argument is bound once more where the table puts it in place.
  case h_1 same =>
    refine Eq.trans (congrArg (node.textArgument >>= ·) (funext fun word => ?_))
      ((sheet.set_at 0 (by decide) same).trans (bind_assoc node.textArgument _ _)).symm
    cases LogLevel.ofName word <;> rfl
  case h_2 same =>
    exact ((sheet.set_at 1 (by decide) same).trans (bind_assoc node.countArgument _ _)).symm
  case h_3 same =>
    refine Eq.trans (congrArg (node.countArgument >>= ·) (funext fun time => ?_))
      ((sheet.set_at 2 (by decide) same).trans (bind_assoc node.countArgument _ _)).symm
    by_cases zero : time = 0
    · rw [if_pos zero, if_pos zero]
      rfl
    · rw [if_neg zero, if_neg zero]
      rfl
  case h_4 =>
    refine (Sheet.set_of_not_mem ?_).symm
    simp_all [Sheet.names, sheet, requestTimeoutSetting, refreshIntervalSetting]

theorem BarConfig.set_eq : BarConfig.set = sheet.set := by
  funext config node
  unfold BarConfig.set
  split
  case h_1 same =>
    exact ((sheet.set_at 0 (by decide) same).trans (bind_assoc node.textArgument _ _)).symm
  case h_2 same => exact (sheet.set_at 1 (by decide) same).symm
  case h_3 same => exact (sheet.set_at 2 (by decide) same).symm
  case h_4 same => exact (sheet.set_at 3 (by decide) same).symm
  case h_5 same => exact (sheet.set_at 4 (by decide) same).symm
  case h_6 same => exact (sheet.set_at 5 (by decide) same).symm
  case h_7 same => exact (sheet.set_at 6 (by decide) same).symm
  case h_8 same =>
    refine Eq.trans (congrArg (node.textArgument >>= ·) (funext fun word => ?_))
      ((sheet.set_at 7 (by decide) same).trans (bind_assoc node.textArgument _ _)).symm
    cases Arrangement.ofName word <;> rfl
  case h_9 same => exact (sheet.set_at 8 (by decide) same).symm
  case h_10 same => exact (sheet.set_at 9 (by decide) same).symm
  case h_11 same =>
    exact ((sheet.set_at 10 (by decide) same).trans (bind_assoc node.countArgument _ _)).symm
  case h_12 same => exact (sheet.set_at 11 (by decide) same).symm
  case h_13 same => exact (sheet.set_at 12 (by decide) same).symm
  case h_14 same => exact (sheet.set_at 13 (by decide) same).symm
  case h_15 same => exact (sheet.set_at 14 (by decide) same).symm
  case h_16 same => exact (sheet.set_at 15 (by decide) same).symm
  case h_17 =>
    refine (Sheet.set_of_not_mem ?_).symm
    simp_all [Sheet.names, sheet, Setting.switch, Setting.text, retryBudgetSetting, ignoredSetting,
      declarationsSetting, rulesSetting]

theorem Config.set_eq : Config.set = sheet.set := by
  funext config node
  unfold Config.set
  split
  case h_1 same => exact (sheet.set_at 0 (by decide) same).symm
  case h_2 same => exact (sheet.set_at 1 (by decide) same).symm
  case h_3 =>
    refine (Sheet.set_of_not_mem ?_).symm
    simp_all [Sheet.names, sheet, serviceSection, barSection]

/-! ### Documents that are alike -/

namespace Config

variable {nodes others : List Node} {config : Config}

theorem ofNodes_eq (nodes : List Node) : ofNodes nodes = nodes.foldlM Config.sheet.set {} := by
  unfold ofNodes
  rw [Config.set_eq]

/-- A step between documents that are alike: nodes are rearranged at the top, or below a node for
the service, or below a node for the bar. -/
inductive Alike : List Node → List Node → Prop
  | top {nodes others : List Node} : Config.sheet.Rearranged nodes others → Alike nodes others
  | service {node : Node} {children : List Node} (before after : List Node) :
    node.name = "global" → ServiceConfig.sheet.Rearranged node.children children →
      Alike (before ++ node :: after) (before ++ { node with children := children } :: after)
  | bar {node : Node} {children : List Node} (before after : List Node) :
    node.name = "workspaces" → BarConfig.sheet.Rearranged node.children children →
      Alike (before ++ node :: after) (before ++ { node with children := children } :: after)

theorem Alike.ofNodes_iff (alike : Alike nodes others) :
    ofNodes nodes = .ok config ↔ ofNodes others = .ok config := by
  rw [ofNodes_eq, ofNodes_eq]
  cases alike with
  | top rearranged => exact rearranged.foldlM_set_iff
  | @service node children before after named rearranged =>
    have alike : ∀ service, serviceSection.read node = .ok service ↔
        serviceSection.read { node with children := children } = .ok service := by
      simp only [serviceSection, ServiceConfig.set_eq, rearranged.foldlM_set_iff, implies_true]
    exact Sheet.foldlM_set_iff_of_read serviceSection_mem alike named named before after
  | @bar node children before after named rearranged =>
    have alike : ∀ bar, barSection.read node = .ok bar ↔
        barSection.read { node with children := children } = .ok bar := by
      simp only [barSection, BarConfig.set_eq, rearranged.foldlM_set_iff, implies_true]
    exact Sheet.foldlM_set_iff_of_read barSection_mem alike named named before after

/-! ### Which node decides -/

/-- What stands below the last node of a name. -/
def below (name : String) (nodes : List Node) : List Node :=
  match (nodes.filter fun node => node.name = name).getLast? with
  | some node => node.children
  | none => []

/-- What is read of the nodes below another is read of those below the last one of its name. -/
theorem read_below {Value : Type} (read : List Node → Except Config.Error Value) {name : String}
    {start value : Value} (empty : read [] = .ok start)
    (decided : match (nodes.filter fun node => node.name = name).getLast? with
      | some node => read node.children = .ok value
      | none => value = start) :
    read (below name nodes) = .ok value := by
  unfold below
  cases found : (nodes.filter fun node => node.name = name).getLast? with
  | some node =>
    rw [found] at decided
    exact decided
  | none =>
    rw [found] at decided
    rw [decided]
    exact empty

theorem foldlM_service (accepted : ofNodes nodes = .ok config) :
    (below "global" nodes).foldlM ServiceConfig.sheet.set {} = .ok config.service := by
  rw [ofNodes_eq, Sheet.foldlM_set_eq_ok_iff] at accepted
  rw [← ServiceConfig.set_eq]
  exact read_below (List.foldlM ServiceConfig.set {}) rfl
    (Setting.decidedByLast_of_run (fun _ _ => rfl) (accepted _ serviceSection_mem))

theorem foldlM_bar (accepted : ofNodes nodes = .ok config) :
    (below "workspaces" nodes).foldlM BarConfig.sheet.set {} = .ok config.bar := by
  rw [ofNodes_eq, Sheet.foldlM_set_eq_ok_iff] at accepted
  rw [← BarConfig.set_eq]
  exact read_below (List.foldlM BarConfig.set {}) rfl
    (Setting.decidedByLast_of_run (fun _ _ => rfl) (accepted _ barSection_mem))

/-- What the options are decided by. -/
structure LastDecides (nodes : List Node) (config : Config) : Prop where
  sections : ∀ setting ∈ Config.sheet.settings,
    setting.DecidedByLast nodes (setting.get {}) (setting.get config)
  service : ∀ setting ∈ ServiceConfig.sheet.settings,
    setting.DecidedByLast (below "global" nodes) (setting.get {}) (setting.get config.service)
  bar : ∀ setting ∈ BarConfig.sheet.settings, setting.name ≠ "ignore-workspaces" →
    setting.DecidedByLast (below "workspaces" nodes) (setting.get {}) (setting.get config.bar)
  /-- The names to leave out are collected from all the nodes for them. -/
  ignored : config.bar.ignored =
    ((below "workspaces" nodes).filter fun node => node.name = "ignore-workspaces").flatMap
      fun node => node.arguments.filterMap Node.Value.text?

theorem foldlM_collect (collect : Node → List String) (nodes : List Node) (held : List String) :
    nodes.foldlM (fun held node =>
        (Except.ok (collect node) : Except Config.Error (List String)) >>= fun more =>
          .ok (held ++ more)) held =
      .ok (held ++ nodes.flatMap collect) := by
  induction nodes generalizing held with
  | nil => rw [List.flatMap_nil, List.append_nil]; rfl
  | cons node nodes inductionHypothesis =>
    rw [List.foldlM_cons, List.flatMap_cons, ← List.append_assoc, ← inductionHypothesis]
    rfl

theorem lastDecides_of_ofNodes (accepted : ofNodes nodes = .ok config) :
    LastDecides nodes config := by
  have service := Sheet.foldlM_set_eq_ok_iff.mp (foldlM_service accepted)
  have bar := Sheet.foldlM_set_eq_ok_iff.mp (foldlM_bar accepted)
  rw [ofNodes_eq, Sheet.foldlM_set_eq_ok_iff] at accepted
  constructor
  case sections =>
    have replaces : ∀ setting ∈ Config.sheet.settings, ∀ held said,
        setting.join held said = said := by
      simp [Config.sheet, serviceSection, barSection]
    exact fun setting among =>
      Setting.decidedByLast_of_run (replaces setting among) (accepted setting among)
  case service =>
    have replaces : ∀ setting ∈ ServiceConfig.sheet.settings, ∀ held said,
        setting.join held said = said := by
      simp [ServiceConfig.sheet, ServiceConfig.requestTimeoutSetting,
        ServiceConfig.refreshIntervalSetting]
    exact fun setting among =>
      Setting.decidedByLast_of_run (replaces setting among) (service setting among)
  case bar =>
    have replaces : ∀ setting ∈ BarConfig.sheet.settings, setting.name ≠ "ignore-workspaces" →
        ∀ held said, setting.join held said = said := by
      simp [BarConfig.sheet, Setting.switch, Setting.text, BarConfig.retryBudgetSetting,
        BarConfig.ignoredSetting, BarConfig.declarationsSetting, BarConfig.rulesSetting]
    exact fun setting among other =>
      Setting.decidedByLast_of_run (replaces setting among other) (bar setting among)
  case ignored =>
    have run := bar BarConfig.ignoredSetting (by simp [BarConfig.sheet])
    have collected := foldlM_collect (fun node => node.arguments.filterMap Node.Value.text?)
      ((below "workspaces" nodes).filter fun node => node.name = "ignore-workspaces") []
    exact Except.ok.inj (run.symm.trans collected)

/-- For every document: one that is alike, with nodes that have changed places with neighbours of
other names and with more or fewer nodes that are no option, is loaded as the same configuration,
or neither is loaded. And an option is decided by the last node for it, except for the names to
leave out, which are collected in order. -/
theorem ofNodes_independent (nodes : List Node) :
    (∀ others, Relation.EqvGen Alike nodes others → ∀ config,
      ofNodes nodes = .ok config ↔ ofNodes others = .ok config) ∧
      ∀ config, ofNodes nodes = .ok config → LastDecides nodes config := by
  refine ⟨fun others alike config => ?_, fun config => lastDecides_of_ofNodes⟩
  induction alike with
  | rel first second alike => exact alike.ofNodes_iff
  | refl first => exact Iff.rfl
  | symm first second _ inductionHypothesis => exact inductionHypothesis.symm
  | trans first second third _ _ before after => exact before.trans after

/-- Two sections that have changed places, one of them with a node that is no option. -/
theorem ofNodes_independent_swapped :
    let argument (text : String) : Node.Entry := ⟨none, .string text⟩
    let option (name text : String) : Node := ⟨name, [argument text], []⟩
    let global : Node := ⟨"global", [], [option "log-level" "debug"]⟩
    let shown : List Node := [option "ignore-workspaces" "a", option "format" "x",
      option "ignore-workspaces" "b", option "format" "y"]
    let document : List Node := [global, ⟨"workspaces", [], shown⟩]
    let other : List Node := [⟨"workspaces", [], option "colour" "red" :: shown⟩, global]
    ∃ config, Config.ofNodes document = .ok config ∧ Config.ofNodes other = .ok config ∧
      config.service.logLevel = .debug ∧ config.bar.format = "y" ∧
      config.bar.ignored = ["a", "b"] := by
  intro argument option global shown document other
  have loaded : Config.ofNodes document = .ok {
      service := { logLevel := .debug }, bar := { format := "y", ignored := ["a", "b"] } } := by
    rfl
  have swapped : Alike document [⟨"workspaces", [], shown⟩, global] :=
    .top (.swap [] [] (by decide))
  have inserted : BarConfig.sheet.Rearranged shown (option "colour" "red" :: shown) :=
    .insert [] shown (by decide)
  have named : Node.name ⟨"workspaces", [], shown⟩ = "workspaces" := rfl
  have alike : Relation.EqvGen Alike document other :=
    .trans _ _ _ (.rel _ _ swapped) (.rel _ _ (Alike.bar [] [global] named inserted))
  exact ⟨_, loaded, ((ofNodes_independent document).1 other alike _).mp loaded, rfl, rfl, rfl⟩

end Config

end Deskbar
