/-
This file describes sections of a configuration by tables of their settings. A setting goes by a
name. It says what it makes of a node of that name, and how that joins with what it made of the
nodes before. What a section holds in the end follows from the table alone: every setting runs over
the nodes of its own name as if there were no others. So it does not matter where the other nodes
stand, and nodes without a setting do not matter at all.
-/

import Mathlib.Data.List.Nodup
import Mathlib.Data.List.Pairwise
import Mathlib.Logic.Relation
import Deskbar.Config.Loader
import Deskbar.Proofs.Folds

namespace Deskbar

/-! ### Settings -/

/-- A setting of a section. -/
structure Setting (Section : Type) where
  name : String
  {Value : Type}
  get : Section → Value
  put : Section → Value → Section
  /-- What a node says about the setting, or why it is refused. -/
  read : Node → Except Config.Error Value
  /-- What is held once a node says something about what was held before. -/
  join : Value → Value → Value := fun _ said => said
  get_put : ∀ config value, get (put config value) = value

namespace Setting

variable {Section : Type} (setting : Setting Section)

/-- Sets a setting of a section by one of its nodes. -/
def set (config : Section) (node : Node) : Except Config.Error Section := do
  return setting.put config (setting.join (setting.get config) (← setting.read node))

/-- The nodes that are about a setting. -/
def own (nodes : List Node) : List Node := nodes.filter fun node => node.name = setting.name

/-- What a setting holds after all nodes about it, if none of them is refused. -/
def run (nodes : List Node) (held : setting.Value) : Except Config.Error setting.Value :=
  (setting.own nodes).foldlM (fun held node => do return setting.join held (← setting.read node))
    held

/-- Whether the last node that is about a setting decides what it holds. -/
def DecidedByLast (nodes : List Node) (start value : setting.Value) : Prop :=
  match (setting.own nodes).getLast? with
  | some node => setting.read node = .ok value
  | none => value = start

/-- A setting that is switched on or off. -/
def switch (name : String) (get : Section → Bool) (put : Section → Bool → Section)
    (get_put : ∀ config value, get (put config value) = value) : Setting Section where
  name := name
  get := get
  put := put
  read := Node.truthArgument
  get_put := get_put

/-- A setting that is a text. -/
def text (name : String) (get : Section → String) (put : Section → String → Section)
    (get_put : ∀ config value, get (put config value) = value) : Setting Section where
  name := name
  get := get
  put := put
  read := Node.textArgument
  get_put := get_put

variable {setting} {nodes : List Node} {node : Node} {held value : setting.Value}

theorem own_cons_of_eq (same : node.name = setting.name) :
    setting.own (node :: nodes) = node :: setting.own nodes :=
  List.filter_cons_of_pos (decide_eq_true same)

theorem own_cons_of_ne (other : node.name ≠ setting.name) :
    setting.own (node :: nodes) = setting.own nodes :=
  List.filter_cons_of_neg (by simpa using other)

theorem run_cons_of_eq (same : node.name = setting.name) :
    setting.run (node :: nodes) held = .ok value ↔
      ∃ said, setting.read node = .ok said ∧
        setting.run nodes (setting.join held said) = .ok value := by
  unfold run
  rw [own_cons_of_eq same, List.foldlM_cons, bind_assoc, bind_eq_ok_iff]
  rfl

theorem run_cons_of_ne (other : node.name ≠ setting.name) :
    setting.run (node :: nodes) held = setting.run nodes held := by
  unfold run
  rw [own_cons_of_ne other]

theorem exists_read_of_run (accepted : setting.run nodes held = .ok value) :
    ∀ node ∈ nodes, node.name = setting.name → ∃ said, setting.read node = .ok said := by
  induction nodes generalizing held with
  | nil => exact fun _ member => absurd member List.not_mem_nil
  | cons first nodes inductionHypothesis =>
    rw [List.forall_mem_cons]
    by_cases same : first.name = setting.name
    · obtain ⟨said, read, rest⟩ := (run_cons_of_eq same).mp accepted
      exact ⟨fun _ => ⟨said, read⟩, inductionHypothesis rest⟩
    · rw [run_cons_of_ne same] at accepted
      exact ⟨fun equal => absurd equal same, inductionHypothesis accepted⟩

/-- Where what a node says takes the place of what was held, the last node decides. -/
theorem decidedByLast_of_run (replaces : ∀ held said, setting.join held said = said)
    (accepted : setting.run nodes held = .ok value) : setting.DecidedByLast nodes held value := by
  unfold run at accepted
  unfold DecidedByLast
  rcases List.eq_nil_or_concat (setting.own nodes) with none | ⟨earlier, last, some⟩
  · rw [none] at accepted ⊢
    exact (Except.ok.inj accepted).symm
  · rw [some, List.concat_eq_append, List.foldlM_append, bind_eq_ok_iff] at accepted
    obtain ⟨before, -, accepted⟩ := accepted
    rw [List.foldlM_cons, bind_assoc, bind_eq_ok_iff] at accepted
    obtain ⟨said, read, same⟩ := accepted
    have same : setting.join before said = value := Except.ok.inj same
    rw [some, List.concat_eq_append, List.getLast?_concat, ← same, replaces]
    exact read

theorem DecidedByLast.read_or_eq {start : setting.Value}
    (decided : setting.DecidedByLast nodes start value) :
    (∃ node, setting.read node = .ok value) ∨ value = start := by
  unfold DecidedByLast at decided
  split at decided
  · next node _ => exact Or.inl ⟨node, decided⟩
  · exact Or.inr decided

end Setting

/-! ### Sheets -/

/-- Whether to put a value into one of two settings leaves the other as it is. -/
def Setting.Apart {Section : Type} (one other : Setting Section) : Prop :=
  (∀ config value, other.get (one.put config value) = other.get config) ∧
    ∀ config value, one.get (other.put config value) = one.get config

/-- The table of the settings of a section. -/
structure Sheet (Section : Type) where
  settings : List (Setting Section)
  distinct : (settings.map Setting.name).Nodup
  apart : settings.Pairwise Setting.Apart
  /-- A section holds nothing else. -/
  ext : ∀ one other, (∀ setting ∈ settings, setting.get one = setting.get other) → one = other

namespace Sheet

variable {Section : Type} (sheet : Sheet Section)

/-- The names under which a section has settings. -/
def names : List String := sheet.settings.map Setting.name

/-- Sets the setting of a section that a node is about, if there is one. -/
def set (config : Section) (node : Node) : Except Config.Error Section :=
  match sheet.settings.find? fun setting => setting.name = node.name with
  | some setting => setting.set config node
  | none => .ok config

variable {sheet} {setting other : Setting Section} {config next : Section} {node : Node}
  {nodes others : List Node}

theorem eq_of_name (among : setting ∈ sheet.settings) (otherAmong : other ∈ sheet.settings)
    (same : setting.name = other.name) : setting = other :=
  List.inj_on_of_nodup_map sheet.distinct among otherAmong same

theorem get_put_of_ne (among : setting ∈ sheet.settings) (otherAmong : other ∈ sheet.settings)
    (different : setting ≠ other) (value : setting.Value) :
    other.get (setting.put config value) = other.get config := by
  have : Std.Symm (@Setting.Apart Section) := ⟨fun _ _ => And.symm⟩
  exact (sheet.apart.forall among otherAmong different).1 config value

theorem set_of_mem (among : setting ∈ sheet.settings) (same : node.name = setting.name) :
    sheet.set config node = setting.set config node := by
  unfold set
  cases found : sheet.settings.find? fun setting => setting.name = node.name with
  | none => exact absurd (decide_eq_true same.symm) (List.find?_eq_none.mp found setting among)
  | some first =>
    have named : first.name = node.name := by simpa using List.find?_some found
    rw [eq_of_name (List.mem_of_find?_eq_some found) among (named.trans same)]

/-- What a node does that names the setting at some place of the table. -/
theorem set_at (sheet : Sheet Section) {config : Section} (place : Nat)
    (inside : place < sheet.settings.length) (same : node.name = sheet.settings[place].name) :
    sheet.set config node = sheet.settings[place].set config node :=
  set_of_mem (List.getElem_mem inside) same

theorem set_of_not_mem (unknown : node.name ∉ sheet.names) :
    sheet.set config node = .ok config := by
  unfold set
  cases found : sheet.settings.find? fun setting => setting.name = node.name with
  | none => rfl
  | some first =>
    have named : first.name = node.name := by simpa using List.find?_some found
    exact absurd (List.mem_map.mpr ⟨first, List.mem_of_find?_eq_some found, named⟩) unknown

/-- A node sets its own setting, and leaves the others as they are. -/
theorem set_get (accepted : sheet.set config node = .ok next) (among : setting ∈ sheet.settings) :
    (node.name = setting.name → ∃ said, setting.read node = .ok said ∧
      setting.get next = setting.join (setting.get config) said) ∧
    (node.name ≠ setting.name → setting.get next = setting.get config) := by
  constructor
  · intro same
    rw [set_of_mem among same] at accepted
    obtain ⟨said, read, put⟩ := bind_eq_ok_iff.mp accepted
    rw [← Except.ok.inj put, setting.get_put]
    exact ⟨said, read, rfl⟩
  · intro different
    by_cases known : node.name ∈ sheet.names
    · obtain ⟨owner, ownerAmong, same⟩ := List.mem_map.mp known
      rw [set_of_mem ownerAmong same.symm] at accepted
      obtain ⟨said, -, put⟩ := bind_eq_ok_iff.mp accepted
      rw [← Except.ok.inj put]
      refine get_put_of_ne ownerAmong among (fun equal => different ?_) _
      rw [← same, equal]
    · rw [set_of_not_mem known] at accepted
      rw [Except.ok.inj accepted]

theorem exists_set (read : ∀ setting ∈ sheet.settings, node.name = setting.name →
    ∃ said, setting.read node = .ok said) : ∃ next, sheet.set config node = .ok next := by
  by_cases known : node.name ∈ sheet.names
  · obtain ⟨owner, among, same⟩ := List.mem_map.mp known
    obtain ⟨said, read⟩ := read owner among same.symm
    exact ⟨_, (set_of_mem among same.symm).trans (bind_eq_ok_iff.mpr ⟨said, read, rfl⟩)⟩
  · exact ⟨config, set_of_not_mem known⟩

/-- A section holds what its settings hold, each after the nodes about it. -/
theorem foldlM_set_eq_ok_iff {first last : Section} :
    nodes.foldlM sheet.set first = .ok last ↔
      ∀ setting ∈ sheet.settings,
        setting.run nodes (setting.get first) = .ok (setting.get last) := by
  induction nodes generalizing first with
  | nil =>
    constructor
    · intro same setting _
      rw [Except.ok.inj same]
      rfl
    · intro same
      have same : first = last := sheet.ext first last fun setting among =>
        Except.ok.inj (same setting among)
      rw [same]
      rfl
  | cons node nodes inductionHypothesis =>
    -- After the first node, each setting has the rest of its run ahead.
    have rest : ∀ next, sheet.set first node = .ok next → ∀ setting ∈ sheet.settings,
        (setting.run (node :: nodes) (setting.get first) = .ok (setting.get last) ↔
          setting.run nodes (setting.get next) = .ok (setting.get last)) := by
      intro next accepted setting among
      obtain ⟨own, others⟩ := set_get accepted among
      by_cases same : node.name = setting.name
      · obtain ⟨said, read, joined⟩ := own same
        rw [Setting.run_cons_of_eq same, joined]
        refine ⟨fun ⟨other, otherRead, run⟩ => ?_, fun run => ⟨said, read, run⟩⟩
        rwa [Except.ok.inj (otherRead.symm.trans read)] at run
      · rw [Setting.run_cons_of_ne same, others same]
    rw [List.foldlM_cons, bind_eq_ok_iff]
    constructor
    · rintro ⟨next, accepted, run⟩ setting among
      exact (rest next accepted setting among).mpr (inductionHypothesis.mp run setting among)
    · intro runs
      obtain ⟨next, accepted⟩ : ∃ next, sheet.set first node = .ok next :=
        exists_set fun setting among same =>
          Setting.exists_read_of_run (runs setting among) node List.mem_cons_self same
      refine ⟨next, accepted, inductionHypothesis.mpr fun setting among => ?_⟩
      exact (rest next accepted setting among).mp (runs setting among)

/-- No node is refused in a section that is accepted. -/
theorem exists_read_of_foldlM {first last : Section}
    (accepted : nodes.foldlM sheet.set first = .ok last) (inside : node ∈ nodes)
    (among : setting ∈ sheet.settings) (same : node.name = setting.name) :
    ∃ said, setting.read node = .ok said :=
  Setting.exists_read_of_run (foldlM_set_eq_ok_iff.mp accepted setting among) node inside same

/-! ### Rearranged documents -/

/-- A step between nodes that are alike for a section: two neighbours of different names change
places, or a node that no setting is about comes in. -/
inductive Rearranged (sheet : Sheet Section) : List Node → List Node → Prop
  | swap {first second : Node} (before after : List Node) : first.name ≠ second.name →
    Rearranged sheet (before ++ first :: second :: after) (before ++ second :: first :: after)
  | insert {node : Node} (before after : List Node) : node.name ∉ sheet.names →
    Rearranged sheet (before ++ after) (before ++ node :: after)

theorem Rearranged.own_eq (rearranged : sheet.Rearranged nodes others)
    (among : setting ∈ sheet.settings) : setting.own nodes = setting.own others := by
  unfold Setting.own
  cases rearranged with
  | @swap first second before after different =>
    simp only [List.filter_append]
    by_cases own : first.name = setting.name
    · have other : second.name ≠ setting.name := fun same => different (own.trans same.symm)
      simp [own, other]
    · simp [List.filter_cons, own]
  | @insert node before after unknown =>
    have other : node.name ≠ setting.name := fun same =>
      unknown (same ▸ List.mem_map_of_mem among)
    simp [other]

/-- A section holds the same after nodes that are alike for it, or is refused after both. -/
theorem Rearranged.foldlM_set_iff (rearranged : sheet.Rearranged nodes others)
    {first last : Section} :
    nodes.foldlM sheet.set first = .ok last ↔ others.foldlM sheet.set first = .ok last := by
  simp only [foldlM_set_eq_ok_iff]
  refine forall₂_congr fun setting among => ?_
  unfold Setting.run
  rw [rearranged.own_eq among]

/-- A node may be replaced by one that its setting reads alike. -/
theorem foldlM_set_iff_of_read {substitute : Node} (among : setting ∈ sheet.settings)
    (alike : ∀ value, setting.read node = .ok value ↔ setting.read substitute = .ok value)
    (same : node.name = setting.name) (substituteSame : substitute.name = setting.name)
    (before after : List Node) {first last : Section} :
    (before ++ node :: after).foldlM sheet.set first = .ok last ↔
      (before ++ substitute :: after).foldlM sheet.set first = .ok last := by
  simp only [List.foldlM_append, List.foldlM_cons, bind_eq_ok_iff, set_of_mem among same,
    set_of_mem among substituteSame, Setting.set, alike]

end Sheet

end Deskbar
