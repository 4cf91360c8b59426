/-
This file proves which workspaces a configuration wants to stay. Its declarations are taken in their
order, those that apply to the output of the bar and no others, and each asks for one or several raw
names. Raw names that show the same text ask for the same workspace, so of them only the first is
kept, and none of those that are to be left out.
-/

import Mathlib.Data.List.Nodup
import Deskbar.Bar
import Deskbar.Pattern.Compiled

namespace Deskbar

/-! ### First occurrences -/

section FirstOccurrences

variable {Item Key : Type} [DecidableEq Key] (key : Item → Key)

/-- The items of a list that have a key which no earlier one has. -/
def firstOfEach (items : List Item) : List Item :=
  items.eraseDupsBy fun later first => decide (key later = key first)

theorem firstOfEach_cons (first : Item) (rest : List Item) :
    firstOfEach key (first :: rest) =
      first :: firstOfEach key (rest.filter fun later => key later ≠ key first) := by
  rw [firstOfEach, List.eraseDupsBy_cons, firstOfEach]
  simp only [decide_eq_false_iff_not, ne_eq]

/-- Items that are dropped for their keys do not stand before the items of other keys. -/
theorem find?_filter_key (keeps : Key → Bool) {item : Item} (passed : keeps (key item) = true)
    (items : List Item) :
    (items.filter fun other => keeps (key other)).find? (fun other => key other = key item) =
      items.find? fun other => key other = key item := by
  rw [List.find?_filter]
  refine congrArg (fun test => items.find? test) (funext fun other => ?_)
  by_cases same : key other = key item
  · simp [same, passed]
  · simp [same]

/-- Every item is judged by the first one with its key. -/
theorem mem_firstOfEach_iff {items : List Item} {item : Item} :
    item ∈ firstOfEach key items ↔
      items.find? (fun other => key other = key item) = some item := by
  match items with
  | [] => simp [firstOfEach]
  | first :: rest =>
    rw [firstOfEach_cons, List.mem_cons, mem_firstOfEach_iff, List.find?_cons]
    by_cases same : key first = key item
    · simp only [same, decide_true, Option.some.injEq]
      refine ⟨?_, fun found => Or.inl found.symm⟩
      rintro (rfl | found)
      · rfl
      · simpa using (List.mem_filter.mp (List.mem_of_find?_eq_some found)).2
    · have different : item ≠ first := fun equal => same (congrArg key equal.symm)
      have narrowed := find?_filter_key key (fun value => decide (value ≠ key first))
        (decide_eq_true (Ne.symm same)) rest
      simp only [narrowed, different, decide_eq_false same, false_or]
  termination_by items.length
  decreasing_by exact Nat.lt_succ_of_le (List.length_filter_le _ _)

theorem nodup_map_firstOfEach (items : List Item) : ((firstOfEach key items).map key).Nodup := by
  match items with
  | [] => simp [firstOfEach]
  | first :: rest =>
    rw [firstOfEach_cons, List.map_cons, List.nodup_cons]
    refine ⟨fun member => ?_, nodup_map_firstOfEach _⟩
    obtain ⟨item, kept, same⟩ := List.mem_map.mp member
    have listed := List.mem_of_find?_eq_some ((mem_firstOfEach_iff key).mp kept)
    simpa [same] using (List.mem_filter.mp listed).2
  termination_by items.length
  decreasing_by exact Nat.lt_succ_of_le (List.length_filter_le _ _)

/-- The keys of the first occurrences are the keys of the items. -/
theorem mem_map_firstOfEach_iff {items : List Item} {value : Key} :
    value ∈ (firstOfEach key items).map key ↔ value ∈ items.map key := by
  constructor
  · intro member
    obtain ⟨item, kept, rfl⟩ := List.mem_map.mp member
    exact List.mem_map_of_mem (List.mem_of_find?_eq_some ((mem_firstOfEach_iff key).mp kept))
  · intro member
    obtain ⟨item, listed, rfl⟩ := List.mem_map.mp member
    have someFound : (items.find? fun other => key other = key item).isSome :=
      List.find?_isSome.mpr ⟨item, listed, decide_eq_true rfl⟩
    obtain ⟨first, found⟩ := Option.isSome_iff_exists.mp someFound
    have same : key first = key item := by simpa using List.find?_some found
    rw [← same] at found ⊢
    exact List.mem_map_of_mem ((mem_firstOfEach_iff key).mpr found)

theorem mem_firstOfEach_filter_iff (keeps : Key → Bool) {items : List Item} {item : Item} :
    item ∈ firstOfEach key (items.filter fun other => keeps (key other)) ↔
      keeps (key item) = true ∧
        items.find? (fun other => key other = key item) = some item := by
  rw [mem_firstOfEach_iff]
  constructor
  · intro found
    have passed := (List.mem_filter.mp (List.mem_of_find?_eq_some found)).2
    exact ⟨passed, (find?_filter_key key keeps passed items).symm.trans found⟩
  · rintro ⟨passed, found⟩
    exact (find?_filter_key key keeps passed items).trans found

end FirstOccurrences

/-! ### What declarations ask for -/

/-- Whether a declaration applies to the bar of a configuration. On a bar for all outputs each of
them does. A count is not restricted to outputs. -/
def BarConfig.Applies (config : BarConfig) : Declaration → Prop
  | .named _ outputs =>
    config.allOutputs = true ∨ config.output = none ∨ outputs = [] ∨
      ∃ output ∈ outputs, config.output = some output
  | .count _ => True

instance (config : BarConfig) : DecidablePred config.Applies
  | .named _ outputs => inferInstanceAs (Decidable (config.allOutputs = true ∨
      config.output = none ∨ outputs = [] ∨ ∃ output ∈ outputs, config.output = some output))
  | .count _ => inferInstanceAs (Decidable True)

/-- The raw names that a declaration asks for where it applies. -/
def Declaration.rawNames : Declaration → List String
  | .named name _ => [name]
  | .count total => (List.range' 1 total).map toString

/-- The raw names that a configuration asks for, in the order of its declarations. -/
def BarConfig.askedNames (config : BarConfig) : List String :=
  (config.declarations.filter fun declaration => config.Applies declaration).flatMap
    Declaration.rawNames

theorem Declaration.namesFor_eq (config : BarConfig) (declaration : Declaration) :
    declaration.namesFor (if config.allOutputs then none else config.output) =
      if config.Applies declaration then declaration.rawNames else [] := by
  cases declaration with
  | count total =>
    rw [if_pos (show config.Applies (.count total) from trivial), rawNames,
      List.range'_eq_map_range, List.map_map]
    exact List.map_congr_left fun index _ => congrArg toString (Nat.add_comm index 1)
  | named name outputs =>
    simp only [namesFor, rawNames, BarConfig.Applies]
    by_cases every : config.allOutputs = true
    · simp [every]
    · rcases Option.eq_none_or_eq_some config.output with found | ⟨output, found⟩
      · simp [every, found]
      · simp [every, found]

theorem BarConfig.flatMap_namesFor (config : BarConfig) :
    config.declarations.flatMap
      (Declaration.namesFor (if config.allOutputs then none else config.output)) =
        config.askedNames := by
  unfold askedNames
  induction config.declarations with
  | nil => rfl
  | cons declaration rest inductionHypothesis =>
    rw [List.flatMap_cons, inductionHypothesis, Declaration.namesFor_eq, List.filter_cons]
    by_cases applies : config.Applies declaration <;> simp [applies]

namespace Bar

variable (ignored : List Pattern)

theorem addName_eq (names : List String) (raw : String) :
    addName ignored names raw =
      if shownName raw ∉ names.map shownName ∧ ignores ignored (shownName raw) = false then
        names ++ [raw]
      else names := by
  unfold addName
  by_cases known : shownName raw ∈ names.map shownName
  · simp [known]
  · cases dropped : ignores ignored (shownName raw) <;> simp [known, dropped]

/-- Names are added to those there are as far as nothing there shows the same. -/
theorem foldl_addName (names raws : List String) :
    raws.foldl (addName ignored) names =
      names ++ firstOfEach shownName (raws.filter fun raw =>
        shownName raw ∉ names.map shownName ∧ ignores ignored (shownName raw) = false) := by
  induction raws generalizing names with
  | nil => simp [firstOfEach]
  | cons raw rest inductionHypothesis =>
    rw [List.foldl_cons, List.filter_cons, addName_eq, inductionHypothesis]
    by_cases added : shownName raw ∉ names.map shownName ∧
        ignores ignored (shownName raw) = false
    · rw [if_pos added, if_pos (decide_eq_true added), firstOfEach_cons, List.filter_filter,
        List.append_assoc, List.singleton_append]
      refine congrArg (fun kept => names ++ raw :: firstOfEach shownName kept) ?_
      refine List.filter_congr fun later _ => Bool.eq_iff_iff.mpr ?_
      simp only [decide_eq_true_eq, Bool.and_eq_true, List.map_append, List.mem_append,
        List.map_singleton, List.mem_singleton, not_or]
      tauto
    · rw [if_neg added, if_neg (by simpa only [decide_eq_true_eq] using added)]

theorem persistent_eq [Pattern.Engine] (config : BarConfig) :
    (ofConfig config).persistent =
      firstOfEach shownName (config.askedNames.filter fun raw =>
        !(ofConfig config).leavesOut (shownName raw)) := by
  have expanded := foldl_addName (ofConfig config).ignored [] config.askedNames
  rw [← config.flatMap_namesFor] at expanded
  refine expanded.trans ?_
  rw [config.flatMap_namesFor, List.nil_append]
  refine congrArg (firstOfEach shownName) (List.filter_congr fun raw _ => ?_)
  simp [leavesOut]

theorem mem_askedNames_iff (config : BarConfig) (raw : String) :
    raw ∈ config.askedNames ↔ ∃ declaration ∈ config.declarations,
      config.Applies declaration ∧ raw ∈ declaration.rawNames := by
  simp only [BarConfig.askedNames, List.mem_flatMap, List.mem_filter, decide_eq_true_eq, and_assoc]

/-- The workspaces that are to stay are those that the declarations ask for, in their order, without
those to be left out and of each shown name the first. So no name is shown twice, every raw name is
the first that is asked for of those that show the same, and a name is shown if a declaration that
applies asks for it, unless it is to be left out. -/
theorem persistent_expands [Pattern.Engine] (config : BarConfig) :
    (ofConfig config).persistent =
        firstOfEach shownName (config.askedNames.filter fun raw =>
          !(ofConfig config).leavesOut (shownName raw)) ∧
      ((ofConfig config).persistent.map shownName).Nodup ∧
      (∀ raw, raw ∈ (ofConfig config).persistent ↔
        (ofConfig config).leavesOut (shownName raw) = false ∧
          config.askedNames.find? (fun other => shownName other = shownName raw) = some raw) ∧
      ∀ shown, shown ∈ (ofConfig config).persistent.map shownName ↔
        (ofConfig config).leavesOut shown = false ∧
          ∃ declaration ∈ config.declarations, config.Applies declaration ∧
            ∃ raw ∈ declaration.rawNames, shownName raw = shown := by
  have expanded := persistent_eq config
  refine ⟨expanded, ?_, fun raw => ?_, fun shown => ?_⟩
  · rw [expanded]
    exact nodup_map_firstOfEach shownName _
  · rw [expanded]
    refine (mem_firstOfEach_filter_iff shownName
      fun shown => !(ofConfig config).leavesOut shown).trans ?_
    rw [Bool.not_eq_true']
  · rw [expanded, mem_map_firstOfEach_iff, List.mem_map]
    constructor
    · rintro ⟨raw, kept, rfl⟩
      obtain ⟨asked, shows⟩ := List.mem_filter.mp kept
      obtain ⟨declaration, declared, applies, member⟩ := (mem_askedNames_iff config raw).mp asked
      exact ⟨Bool.not_eq_true' _ ▸ shows, declaration, declared, applies, raw, member, rfl⟩
    · rintro ⟨shows, declaration, declared, applies, raw, member, rfl⟩
      have asked := (mem_askedNames_iff config raw).mpr ⟨declaration, declared, applies, member⟩
      exact ⟨raw, List.mem_filter.mpr ⟨asked, Bool.not_eq_true' _ ▸ shows⟩, rfl⟩

-- The count stands behind a name that it repeats, and one name is for another output.
example :
    (ofConfig {
        output := some "DP-1"
        declarations := [.named "2" [], .count 3, .named "music" ["HDMI-A-1"],
          .named "special:magic" ["DP-1"], .named "magic" []] }).persistent =
      ["2", "1", "3", "special:magic"] := by
  decide +kernel

end Bar

end Deskbar
