/-
This file proves that the numbers of a configuration are the ones that its document writes, within
the bounds that the program needs. Times are at least a millisecond, the counts of workspaces and
of attempts are cut off at their limits and not wrapped, and the rules for texts are those that have
a template, each with its priority if that is a number of 32 bits. A document in which one of the
options that ask for a number is given anything else is not accepted, wherever the option stands.
-/

import Deskbar.Proofs.Options
import Deskbar.Proofs.Shapes

namespace Deskbar

theorem exists_mem_of_forall₂ {First Second : Type} {relation : First → Second → Prop}
    {firsts : List First} {seconds : List Second} (related : List.Forall₂ relation firsts seconds)
    {first : First} (member : first ∈ firsts) : ∃ second ∈ seconds, relation first second := by
  induction related with
  | nil => cases member
  | cons head _ inductionHypothesis =>
    rcases List.mem_cons.mp member with rfl | member
    · exact ⟨_, List.mem_cons_self, head⟩
    · obtain ⟨second, among, held⟩ := inductionHypothesis member
      exact ⟨second, List.mem_cons_of_mem _ among, held⟩

/-! ### Arguments -/

/-- Whether the first argument of a node is a number that is not negative. -/
def Node.Counts (node : Node) (number : Nat) : Prop :=
  node.arguments.head? = some (.whole number)

namespace Node

variable {node : Node}

theorem Value.text?_eq_some_iff {value : Value} {text : String} :
    value.text? = some text ↔ value = .string text := by
  cases value <;> simp [Value.text?]

theorem Value.whole?_eq_some_iff {value : Value} {number : Int} :
    value.whole? = some number ↔ value = .whole number := by
  cases value <;> simp [Value.whole?]

theorem mapM_text?_eq_some_iff {values : List Value} {texts : List String} :
    values.mapM Value.text? = some texts ↔ values = texts.map .string := by
  induction values generalizing texts with
  | nil => simp [eq_comm]
  | cons value values inductionHypothesis =>
    simp only [List.mapM_cons, Option.bind_eq_bind, Option.bind_eq_some_iff,
      Value.text?_eq_some_iff, inductionHypothesis, Option.pure_def, Option.some.injEq]
    rw [eq_comm (a := value :: values), List.map_eq_cons_iff]
    constructor
    · rintro ⟨text, rfl, texts, rfl, rfl⟩
      exact ⟨text, texts, rfl, rfl, rfl⟩
    · rintro ⟨text, texts, rfl, rfl, rfl⟩
      exact ⟨text, rfl, texts, rfl, rfl⟩

theorem countArgument_eq_ok_iff {number : Nat} :
    node.countArgument = .ok number ↔ node.Counts number := by
  have first : node.Counts number ↔
      node.arguments.head?.bind Value.whole? = some (number : Int) := by
    simp only [Option.bind_eq_some_iff, Value.whole?_eq_some_iff, exists_eq_right, Counts]
  rw [first]
  unfold countArgument
  split
  · next value found =>
    rw [found]
    split <;> simp <;> omega
  · next missing => simp [missing]

/-- What is read of a number can be read if there is a number to read. -/
theorem exists_counts {Value : Type} {next : Nat → Except Config.Error Value} {value : Value}
    (read : node.countArgument >>= next = .ok value) :
    ∃ number, node.Counts number ∧ next number = .ok value := by
  obtain ⟨number, counted, read⟩ := bind_eq_ok_iff.mp read
  exact ⟨number, countArgument_eq_ok_iff.mp counted, read⟩

end Node

/-! ### What a node writes -/

/-- The declaration that a node writes. -/
inductive Declaration.IsWrittenBy (node : Node) : Declaration → Prop
  | named {outputs : List String} : node.name ≠ "*" → node.arguments = outputs.map .string →
    IsWrittenBy node (.named node.name outputs)
  | count {number : Nat} : node.name = "*" → node.Counts number →
    IsWrittenBy node (.count (min number 100))

theorem Declaration.ofNode_eq_ok_iff {node : Node} {declaration : Declaration} :
    ofNode node = .ok declaration ↔ declaration.IsWrittenBy node := by
  unfold ofNode
  by_cases star : node.name = "*"
  · rw [if_pos star, bind_eq_ok_iff]
    constructor
    · rintro ⟨number, counted, ⟨⟩⟩
      exact .count star (Node.countArgument_eq_ok_iff.mp counted)
    · rintro (⟨other, -⟩ | ⟨-, counts⟩)
      · exact absurd star other
      · exact ⟨_, Node.countArgument_eq_ok_iff.mpr counts, rfl⟩
  · rw [if_neg star]
    constructor
    · intro read
      split at read
      · next outputs found =>
        cases read
        exact .named star (Node.mapM_text?_eq_some_iff.mp found)
      · cases read
    · rintro (⟨-, outputs⟩ | ⟨other, -⟩)
      · rw [Node.mapM_text?_eq_some_iff.mpr outputs]
      · exact absurd other star

/-- The rule that a node writes. -/
structure RewriteRule.IsWrittenBy (node : Node) (rule : RewriteRule) : Prop where
  pattern : rule.pattern = node.name
  template : node.arguments.head? = some (.string rule.template)
  priority : ∀ number, rule.priority = some number ↔
    node.property? "priority" = some (.whole number) ∧ -2 ^ 31 ≤ number ∧ number < 2 ^ 31

theorem RewriteRule.isWrittenBy_of_ofNode? {node : Node} {rule : RewriteRule}
    (read : ofNode? node = some rule) : rule.IsWrittenBy node := by
  obtain ⟨template, found, rfl⟩ := Option.map_eq_some_iff.mp read
  obtain ⟨value, first, text⟩ := Option.bind_eq_some_iff.mp found
  refine ⟨rfl, first.trans (congrArg some (Node.Value.text?_eq_some_iff.mp text)), fun number => ?_⟩
  have fits : Text.fitsWord32 number = true ↔ -2 ^ 31 ≤ number ∧ number < 2 ^ 31 :=
    Kind.fitsSigned_iff
  simp only [Option.filter_eq_some_iff, Option.bind_eq_some_iff, Node.Value.whole?_eq_some_iff,
    exists_eq_right, fits]

/-- Whether a node has a text as its first argument. -/
def Node.hasTemplate (node : Node) : Bool :=
  (node.arguments.head?.bind Node.Value.text?).isSome

theorem RewriteRule.forall₂_filterMap (nodes : List Node) :
    List.Forall₂ IsWrittenBy (nodes.filter Node.hasTemplate) (nodes.filterMap ofNode?) := by
  induction nodes with
  | nil => exact .nil
  | cons node nodes inductionHypothesis =>
    have same : node.hasTemplate = (ofNode? node).isSome := Option.isSome_map.symm
    cases read : ofNode? node with
    | none =>
      rw [read] at same
      rw [List.filterMap_cons_none read, List.filter_cons_of_neg (by simp [same])]
      exact inductionHypothesis
    | some rule =>
      rw [read] at same
      rw [List.filterMap_cons_some read, List.filter_cons_of_pos same]
      exact .cons (isWrittenBy_of_ofNode? read) inductionHypothesis

/-! ### Accepted documents -/

namespace Config

/-- The nodes of a document that ask for a number. -/
inductive AsksForNumber (nodes : List Node) : Node → Prop
  | time {service node : Node} : service ∈ nodes → service.name = "global" →
    node ∈ service.children →
    node.name = "request-timeout-ms" ∨ node.name = "refresh-interval-ms" → AsksForNumber nodes node
  | budget {bar node : Node} : bar ∈ nodes → bar.name = "workspaces" → node ∈ bar.children →
    node.name = "window-retry-budget" → AsksForNumber nodes node
  | count {bar persistent node : Node} : bar ∈ nodes → bar.name = "workspaces" →
    persistent ∈ bar.children → persistent.name = "persistent-workspaces" →
    node ∈ persistent.children → node.name = "*" → AsksForNumber nodes node

/-- What the numbers of a configuration are, by the document that it is made of. -/
structure InRange (nodes : List Node) (config : Config) : Prop where
  refreshInterval : 1 ≤ config.service.refreshInterval
  requestTimeout : ∀ time ∈ config.service.requestTimeout, 1 ≤ time
  counts : ∀ total, .count total ∈ config.bar.declarations → total ≤ 100
  declarations : List.Forall₂ Declaration.IsWrittenBy
    (below "persistent-workspaces" (below "workspaces" nodes)) config.bar.declarations
  retryBudget :
    match ((below "workspaces" nodes).filter fun node =>
      node.name = "window-retry-budget").getLast? with
    | some node => ∃ number, node.Counts number ∧
      config.bar.retryBudget.toNat = min number (2 ^ 32 - 1)
    | none => config.bar.retryBudget = 5
  rules : List.Forall₂ RewriteRule.IsWrittenBy
    ((below "window-rewrite" (below "workspaces" nodes)).filter Node.hasTemplate) config.bar.rules
  numbers : ∀ node, AsksForNumber nodes node → ∃ number, node.Counts number

variable {nodes : List Node} {config : Config}

theorem read_service (accepted : ofNodes nodes = .ok config) {service node : Node}
    (among : service ∈ nodes) (named : service.name = "global") (inside : node ∈ service.children)
    {setting : Setting ServiceConfig} (listed : setting ∈ ServiceConfig.sheet.settings)
    (same : node.name = setting.name) : ∃ said, setting.read node = .ok said := by
  rw [ofNodes_eq] at accepted
  obtain ⟨held, read⟩ : ∃ held, service.children.foldlM ServiceConfig.sheet.set {} = .ok held := by
    rw [← ServiceConfig.set_eq]
    exact Sheet.exists_read_of_foldlM accepted among serviceSection_mem named
  exact Sheet.exists_read_of_foldlM read inside listed same

theorem read_bar (accepted : ofNodes nodes = .ok config) {bar node : Node}
    (among : bar ∈ nodes) (named : bar.name = "workspaces") (inside : node ∈ bar.children)
    {setting : Setting BarConfig} (listed : setting ∈ BarConfig.sheet.settings)
    (same : node.name = setting.name) : ∃ said, setting.read node = .ok said := by
  rw [ofNodes_eq] at accepted
  obtain ⟨held, read⟩ : ∃ held, bar.children.foldlM BarConfig.sheet.set {} = .ok held := by
    rw [← BarConfig.set_eq]
    exact Sheet.exists_read_of_foldlM accepted among barSection_mem named
  exact Sheet.exists_read_of_foldlM read inside listed same

/-- A budget is cut off and does not wrap around. -/
theorem toNat_retryBudget (number : Nat) :
    (UInt32.ofNat (min number (Text.bitRange 32 - 1))).toNat = min number (2 ^ 32 - 1) := by
  have limit : Text.bitRange 32 = 2 ^ 32 := rfl
  rw [limit]
  refine UInt32.toNat_ofNat_of_lt' ?_
  exact lt_of_le_of_lt (min_le_right _ _) (by decide)

/-- Where a number is asked for, one is given. -/
theorem exists_counts (accepted : ofNodes nodes = .ok config) {node : Node}
    (asks : AsksForNumber nodes node) : ∃ number, node.Counts number := by
  cases asks with
  | time among named inside same =>
    rcases same with same | same
    · obtain ⟨timeout, read⟩ := read_service accepted among named inside
        (by simp [ServiceConfig.sheet] : ServiceConfig.requestTimeoutSetting ∈ _) same
      exact (Node.exists_counts read).imp fun _ => And.left
    · obtain ⟨interval, read⟩ := read_service accepted among named inside
        (by simp [ServiceConfig.sheet] : ServiceConfig.refreshIntervalSetting ∈ _) same
      exact (Node.exists_counts read).imp fun _ => And.left
  | budget among named inside same =>
    obtain ⟨budget, read⟩ := read_bar accepted among named inside
      (by simp [BarConfig.sheet] : BarConfig.retryBudgetSetting ∈ _) same
    exact (Node.exists_counts read).imp fun _ => And.left
  | count among named persistentInside persistentNamed inside star =>
    obtain ⟨declarations, read⟩ := read_bar accepted among named persistentInside
      (by simp [BarConfig.sheet] : BarConfig.declarationsSetting ∈ _) persistentNamed
    obtain ⟨declaration, -, written⟩ := exists_mem_of_forall₂ (mapM_eq_ok_iff.mp read) inside
    cases Declaration.ofNode_eq_ok_iff.mp written with
    | named other _ => exact absurd star other
    | count _ counts => exact ⟨_, counts⟩

/-- The numbers of a configuration that is made of a document are the ones that the document
writes, within their bounds. -/
theorem inRange_of_ofNodes (accepted : ofNodes nodes = .ok config) : config.InRange nodes := by
  obtain ⟨-, service, bar, -⟩ := lastDecides_of_ofNodes accepted
  have declarations : List.Forall₂ Declaration.IsWrittenBy
      (below "persistent-workspaces" (below "workspaces" nodes)) config.bar.declarations := by
    have decided :=
      bar BarConfig.declarationsSetting (by simp [BarConfig.sheet]) (by decide)
    have read := read_below (List.mapM Declaration.ofNode) rfl decided
    exact (mapM_eq_ok_iff.mp read).imp fun _ _ => Declaration.ofNode_eq_ok_iff.mp
  constructor
  case refreshInterval =>
    have decided :=
      service ServiceConfig.refreshIntervalSetting (by simp [ServiceConfig.sheet])
    rcases decided.read_or_eq with ⟨node, read⟩ | same
    · obtain ⟨time, -, read⟩ := Node.exists_counts read
      split at read
      · cases read
      · next positive =>
        have same : time = config.service.refreshInterval := Except.ok.inj read
        omega
    · have same : config.service.refreshInterval = 1000 := same
      omega
  case requestTimeout =>
    have decided :=
      service ServiceConfig.requestTimeoutSetting (by simp [ServiceConfig.sheet])
    intro timeout held
    rcases decided.read_or_eq with ⟨node, read⟩ | same
    · obtain ⟨time, -, read⟩ := Node.exists_counts read
      have same : (if time = 0 then none else some time) = config.service.requestTimeout :=
        Except.ok.inj read
      rw [← same] at held
      split at held
      · cases held
      · next positive =>
        cases held
        omega
    · have same : config.service.requestTimeout = none := same
      rw [same] at held
      cases held
  case counts =>
    intro total among
    obtain ⟨node, -, written⟩ := exists_mem_of_forall₂ declarations.flip among
    cases written with
    | count _ _ => exact min_le_right _ _
  case declarations => exact declarations
  case retryBudget =>
    have decided : match ((below "workspaces" nodes).filter fun node =>
          node.name = "window-retry-budget").getLast? with
        | some node => (node.countArgument >>= fun number =>
          .ok (UInt32.ofNat (min number (Text.bitRange 32 - 1)))) = .ok config.bar.retryBudget
        | none => config.bar.retryBudget = 5 :=
      bar BarConfig.retryBudgetSetting (by simp [BarConfig.sheet]) (by decide)
    split at decided
    · obtain ⟨number, counts, read⟩ := Node.exists_counts decided
      rw [← Except.ok.inj read]
      exact ⟨number, counts, toNat_retryBudget number⟩
    · exact decided
  case rules =>
    have decided :=
      bar BarConfig.rulesSetting (by simp [BarConfig.sheet]) (by decide)
    have read := read_below (fun nodes => .ok (nodes.filterMap RewriteRule.ofNode?)) rfl decided
    have same : (below "window-rewrite" (below "workspaces" nodes)).filterMap RewriteRule.ofNode? =
        config.bar.rules := Except.ok.inj read
    rw [← same]
    exact RewriteRule.forall₂_filterMap _
  case numbers => exact fun node => exists_counts accepted

/-- A document with numbers on both sides of their bounds. -/
theorem inRange_of_ofNodes_limits :
    let option (name : String) (number : Int) : Node := ⟨name, [⟨none, .whole number⟩], []⟩
    let rule (pattern : String) (priority : Int) : Node :=
      ⟨pattern, [⟨none, .string "icon"⟩, ⟨some "priority", .whole priority⟩], []⟩
    let document : List Node := [
      ⟨"global", [], [option "request-timeout-ms" 0, option "refresh-interval-ms" 1]⟩,
      ⟨"workspaces", [], [
        option "window-retry-budget" 4294967297,
        ⟨"persistent-workspaces", [], [option "*" 101, option "*" 100]⟩,
        ⟨"window-rewrite", [], [⟨"class<bare>", [], []⟩, rule "class<low>" (-2147483648),
          rule "class<high>" 2147483648]⟩]⟩]
    ∃ config, ofNodes document = .ok config ∧ config.InRange document ∧
      config.bar.retryBudget = 4294967295 ∧
      config.bar.declarations = [.count 100, .count 100] ∧
      config.bar.rules.map RewriteRule.priority = [some (-2147483648), none] := by
  intro option rule document
  have loaded : ofNodes document = .ok {
      service := { refreshInterval := 1 }
      bar := {
        retryBudget := 4294967295
        declarations := [.count 100, .count 100]
        rules := [⟨"class<low>", "icon", some (-2147483648)⟩,
          ⟨"class<high>", "icon", none⟩] } } := by
    rfl
  exact ⟨_, loaded, inRange_of_ofNodes loaded, rfl, rfl, rfl⟩

end Config

end Deskbar
