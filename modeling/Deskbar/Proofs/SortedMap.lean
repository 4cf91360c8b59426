/-
This file says what the operations on finite maps do to lookups. A map is determined by its
lookups, so two maps are shown to be equal key by key, and a lookup in a changed map is worked
out without a look at the entries.
-/

import Mathlib.Data.List.Nodup
import Mathlib.Data.List.Perm.Basic
import Deskbar.SortedMap

namespace Deskbar.SortedMap

variable {Key Value Result : Type} [Ord Key]

/-! ### Changes of values -/

theorem contains_iff {map : SortedMap Key Value} {key : Key} :
    map.contains key = true ↔ ∃ value, map.get? key = some value := by
  rw [contains, Option.isSome_iff_exists]

theorem get?_mapValues (map : SortedMap Key Value) (change : Value → Result) (key : Key) :
    (map.mapValues change).get? key = (map.get? key).map change := by
  show lookupEntry key (map.entries.map fun entry => (entry.1, change entry.2)) =
    (lookupEntry key map.entries).map change
  induction map.entries with
  | nil => rfl
  | cons entry rest inductionHypothesis =>
    rw [List.map_cons, lookupEntry, lookupEntry]
    split
    · rfl
    · exact inductionHypothesis

variable [Std.LawfulEqOrd Key]

theorem get?_modify [DecidableEq Key] (map : SortedMap Key Value) (key other : Key)
    (change : Value → Value) :
    (map.modify key change).get? other =
      if other = key then (map.get? other).map change else map.get? other := by
  show lookupEntry other (map.entries.map fun entry =>
      (entry.1, if compare key entry.1 = .eq then change entry.2 else entry.2)) =
    if other = key then (lookupEntry other map.entries).map change
    else lookupEntry other map.entries
  induction map.entries with
  | nil => split <;> rfl
  | cons entry rest inductionHypothesis =>
    rw [List.map_cons, lookupEntry, lookupEntry]
    by_cases found : compare other entry.1 = .eq
    · have here : other = entry.1 := Std.LawfulEqCmp.eq_of_compare found
      rw [if_pos found, if_pos found, here]
      by_cases same : entry.1 = key
      · rw [if_pos same, if_pos (by rw [same]; exact Std.ReflOrd.compare_self), Option.map_some]
      · rw [if_neg same, if_neg fun equal => same (Std.LawfulEqCmp.eq_of_compare equal).symm]
    · rw [if_neg found, if_neg found, inductionHypothesis]

theorem get?_modify_self (map : SortedMap Key Value) (key : Key) (change : Value → Value) :
    (map.modify key change).get? key = (map.get? key).map change := by
  classical rw [get?_modify, if_pos rfl]

theorem get?_modify_of_ne (map : SortedMap Key Value) {key other : Key} (change : Value → Value)
    (different : other ≠ key) : (map.modify key change).get? other = map.get? other := by
  classical rw [get?_modify, if_neg different]

theorem get?_insert_self [Std.TransOrd Key] (map : SortedMap Key Value) (key : Key)
    (value : Value) : (map.insert key value).get? key = some value := by
  show lookupEntry key (insertEntry key value map.entries) = some value
  induction map.entries with
  | nil => rw [insertEntry, lookupEntry, if_pos Std.ReflOrd.compare_self]
  | cons entry rest inductionHypothesis =>
    rw [insertEntry]
    split
    · rw [lookupEntry, if_pos Std.ReflOrd.compare_self]
    · rw [lookupEntry, if_pos Std.ReflOrd.compare_self]
    · next after =>
      rw [lookupEntry, if_neg (by rw [after]; decide)]
      exact inductionHypothesis

theorem get?_insert_of_ne [Std.TransOrd Key] (map : SortedMap Key Value) {key other : Key}
    (value : Value) (different : other ≠ key) :
    (map.insert key value).get? other = map.get? other := by
  have apart : compare other key ≠ .eq := fun same =>
    different (Std.LawfulEqCmp.eq_of_compare same)
  show lookupEntry other (insertEntry key value map.entries) = lookupEntry other map.entries
  induction map.entries with
  | nil =>
    rw [insertEntry, lookupEntry]
    exact if_neg apart
  | cons entry rest inductionHypothesis =>
    rw [insertEntry]
    split
    · rw [lookupEntry]
      exact if_neg apart
    · next same =>
      rw [lookupEntry, lookupEntry, ← Std.LawfulEqCmp.eq_of_compare same, if_neg apart]
      exact (if_neg apart).symm
    · rw [lookupEntry, lookupEntry, inductionHypothesis]

theorem get?_insert [Std.TransOrd Key] [DecidableEq Key] (map : SortedMap Key Value)
    (key other : Key) (value : Value) :
    (map.insert key value).get? other = if other = key then some value else map.get? other := by
  split
  · next same => rw [same, get?_insert_self]
  · next different => exact get?_insert_of_ne map value different

/-! ### Entries -/

theorem mem_of_lookupEntry {key : Key} {value : Value} {entries : List (Key × Value)}
    (found : lookupEntry key entries = some value) : (key, value) ∈ entries := by
  induction entries with
  | nil => exact absurd found (by simp [lookupEntry])
  | cons entry rest inductionHypothesis =>
    rw [lookupEntry] at found
    split at found
    · next same =>
      rw [Std.LawfulEqCmp.eq_of_compare same, ← Option.some.inj found]
      exact List.mem_cons_self
    · exact List.mem_cons_of_mem _ (inductionHypothesis found)

theorem keys_nodup (map : SortedMap Key Value) : map.keys.Nodup := by
  rw [keys, List.Nodup, List.pairwise_map]
  refine map.ascending.imp fun {first second} below same => ?_
  rw [same, Std.ReflOrd.compare_self] at below
  exact absurd below (by decide)

theorem entries_nodup (map : SortedMap Key Value) : map.entries.Nodup :=
  List.Nodup.of_map Prod.fst map.keys_nodup

variable [Std.TransOrd Key]

theorem lookupEntry_of_mem {key : Key} {value : Value} {entries : List (Key × Value)}
    (ascending : entries.Pairwise fun earlier later => compare earlier.1 later.1 = .lt)
    (member : (key, value) ∈ entries) : lookupEntry key entries = some value := by
  induction entries with
  | nil => exact absurd member List.not_mem_nil
  | cons entry rest inductionHypothesis =>
    obtain ⟨below, restAscending⟩ := List.pairwise_cons.mp ascending
    rw [lookupEntry]
    rcases List.mem_cons.mp member with same | later
    · rw [← same, if_pos Std.ReflOrd.compare_self]
    · have after : compare entry.1 key = .lt := below _ later
      have different : compare key entry.1 ≠ .eq := by
        rw [Std.OrientedCmp.gt_of_lt after]
        decide
      rw [if_neg different]
      exact inductionHypothesis restAscending later

/-- A map binds a key to a value when it has the entry. -/
theorem get?_eq_some_iff {map : SortedMap Key Value} {key : Key} {value : Value} :
    map.get? key = some value ↔ (key, value) ∈ map.entries :=
  ⟨mem_of_lookupEntry, lookupEntry_of_mem map.ascending⟩

/-- Maps with the same lookups are equal. -/
theorem eq_of_get? {first second : SortedMap Key Value}
    (same : ∀ key, first.get? key = second.get? key) : first = second := by
  refine eq_of_entries (List.Perm.eq_of_pairwise ?_ first.ascending second.ascending ?_)
  · intro earlier later _ _ before after
    rw [Std.OrientedCmp.gt_of_lt before] at after
    exact absurd after (by decide)
  · refine (List.perm_ext_iff_of_nodup first.entries_nodup second.entries_nodup).mpr ?_
    rintro ⟨key, value⟩
    rw [← get?_eq_some_iff, ← get?_eq_some_iff, same key]

/-! ### Keys and values -/

theorem mem_keys_iff {map : SortedMap Key Value} {key : Key} :
    key ∈ map.keys ↔ ∃ value, map.get? key = some value := by
  simp only [keys, List.mem_map, get?_eq_some_iff, Prod.exists, exists_and_right, exists_eq_right]

theorem mem_values_iff {map : SortedMap Key Value} {value : Value} :
    value ∈ map.values ↔ ∃ key, map.get? key = some value := by
  simp only [values, List.mem_map, get?_eq_some_iff, Prod.exists, exists_eq_right]

theorem get?_eq_none_iff {map : SortedMap Key Value} {key : Key} :
    map.get? key = none ↔ key ∉ map.keys := by
  rw [mem_keys_iff, not_exists, Option.eq_none_iff_forall_ne_some]

/-! ### Lookups after an entry was erased -/

theorem get?_erase_self (map : SortedMap Key Value) (key : Key) :
    (map.erase key).get? key = none := by
  refine get?_eq_none_iff.mpr fun member => ?_
  obtain ⟨value, found⟩ := mem_keys_iff.mp member
  obtain ⟨-, kept⟩ := List.mem_filter.mp (get?_eq_some_iff.mp found)
  rw [Std.ReflOrd.compare_self] at kept
  exact absurd kept (by decide)

theorem get?_erase_of_ne (map : SortedMap Key Value) {key other : Key}
    (different : other ≠ key) : (map.erase key).get? other = map.get? other := by
  have kept : compare key other ≠ .eq := fun same =>
    different (Std.LawfulEqCmp.eq_of_compare same).symm
  refine Option.ext fun value => ?_
  rw [get?_eq_some_iff, get?_eq_some_iff, erase, List.mem_filter]
  exact and_iff_left (decide_eq_true kept)

theorem get?_erase [DecidableEq Key] (map : SortedMap Key Value) (key other : Key) :
    (map.erase key).get? other = if other = key then none else map.get? other := by
  split
  · next same => rw [same, get?_erase_self]
  · next different => exact get?_erase_of_ne map different

/-! ### Changes that change nothing -/

theorem modify_eq_self {map : SortedMap Key Value} {key : Key} {change : Value → Value}
    (fixed : ∀ value, map.get? key = some value → change value = value) :
    map.modify key change = map := by
  classical
  refine eq_of_get? fun other => ?_
  rw [get?_modify]
  split
  · next same =>
    subst same
    cases found : map.get? other with
    | none => rfl
    | some value => rw [Option.map_some, fixed value found]
  · rfl

end Deskbar.SortedMap
