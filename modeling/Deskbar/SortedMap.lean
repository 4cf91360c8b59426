/-
This file holds finite maps whose entries stand in ascending key order.

A map is its list of entries together with the fact that the keys ascend, so it
has one representation: two maps that answer every lookup alike are equal, and
walking a map visits its keys in their order whatever the history of insertions
was.
-/

namespace Deskbar

/-- A finite map as a list of entries with strictly ascending keys. -/
structure SortedMap (Key Value : Type) [Ord Key] where
  entries : List (Key × Value)
  ascending : entries.Pairwise fun earlier later => compare earlier.1 later.1 = .lt

namespace SortedMap

variable {Key Value Result : Type} [Ord Key]

/-! ### Entry lists -/

/-- The entry list with `key` bound to `value`, put where the order asks for it. -/
def insertEntry (key : Key) (value : Value) : List (Key × Value) → List (Key × Value)
  | [] => [(key, value)]
  | entry :: rest =>
    match compare key entry.1 with
    | .lt => (key, value) :: entry :: rest
    | .eq => (key, value) :: rest
    | .gt => entry :: insertEntry key value rest

/-- The value the first entry for `key` holds. -/
def lookupEntry (key : Key) : List (Key × Value) → Option Value
  | [] => none
  | entry :: rest => if compare key entry.1 = .eq then some entry.2 else lookupEntry key rest

theorem mem_insertEntry {key : Key} {value : Value} {entry : Key × Value}
    {entries : List (Key × Value)} (member : entry ∈ insertEntry key value entries) :
    entry = (key, value) ∨ entry ∈ entries := by
  induction entries with
  | nil => simpa [insertEntry] using member
  | cons first rest inductionHypothesis =>
    rw [insertEntry] at member
    split at member
    · simpa using member
    · simp only [List.mem_cons] at member ⊢
      exact member.elim Or.inl fun old => Or.inr (Or.inr old)
    · simp only [List.mem_cons] at member ⊢
      exact member.elim (fun same => Or.inr (Or.inl same))
        fun old => (inductionHypothesis old).imp id Or.inr

theorem insertEntry_ascending [Std.TransOrd Key] [Std.LawfulEqOrd Key] (key : Key) (value : Value)
    {entries : List (Key × Value)}
    (ascending : entries.Pairwise fun earlier later => compare earlier.1 later.1 = .lt) :
    (insertEntry key value entries).Pairwise
      fun earlier later => compare earlier.1 later.1 = .lt := by
  induction entries with
  | nil => simp [insertEntry]
  | cons first rest inductionHypothesis =>
    obtain ⟨below, restAscending⟩ := List.pairwise_cons.mp ascending
    rw [insertEntry]
    split
    · next before =>
      refine List.pairwise_cons.mpr ⟨fun entry member => ?_, ascending⟩
      rcases List.mem_cons.mp member with same | later
      · rw [same]; exact before
      · exact Std.TransCmp.lt_trans before (below entry later)
    · next same =>
      have keyed : key = first.1 := Std.LawfulEqCmp.eq_of_compare same
      refine List.pairwise_cons.mpr ⟨fun entry member => ?_, restAscending⟩
      rw [keyed]
      exact below entry member
    · next after =>
      refine List.pairwise_cons.mpr ⟨fun entry member => ?_, inductionHypothesis restAscending⟩
      rcases mem_insertEntry member with same | old
      · rw [same]; exact Std.OrientedCmp.lt_of_gt after
      · exact below entry old

/-! ### Maps -/

/-- The map with no entries. -/
def empty : SortedMap Key Value := ⟨[], List.Pairwise.nil⟩

instance : Inhabited (SortedMap Key Value) := ⟨empty⟩

/-- The value bound to `key`. -/
def get? (map : SortedMap Key Value) (key : Key) : Option Value := lookupEntry key map.entries

/-- Whether `key` is bound. -/
def contains (map : SortedMap Key Value) (key : Key) : Bool := (map.get? key).isSome

/-- The map with `key` bound to `value` and every other binding kept. -/
def insert [Std.TransOrd Key] [Std.LawfulEqOrd Key] (map : SortedMap Key Value) (key : Key)
    (value : Value) : SortedMap Key Value :=
  ⟨insertEntry key value map.entries, insertEntry_ascending key value map.ascending⟩

/-- The map without a binding for `key`. -/
def erase (map : SortedMap Key Value) (key : Key) : SortedMap Key Value :=
  ⟨map.entries.filter fun entry => compare key entry.1 ≠ .eq, map.ascending.filter _⟩

/-- The map with every value replaced by `change` of it. -/
def mapValues (change : Value → Result) (map : SortedMap Key Value) : SortedMap Key Result :=
  ⟨map.entries.map fun entry => (entry.1, change entry.2),
    List.Pairwise.map _ (fun _ _ below => below) map.ascending⟩

/-- The map with the value at `key`, if there is one, replaced by `change` of it. -/
def modify (map : SortedMap Key Value) (key : Key) (change : Value → Value) :
    SortedMap Key Value :=
  ⟨map.entries.map fun entry =>
      (entry.1, if compare key entry.1 = .eq then change entry.2 else entry.2),
    List.Pairwise.map _ (fun _ _ below => below) map.ascending⟩

/-- The bound keys, ascending. -/
def keys (map : SortedMap Key Value) : List Key := map.entries.map Prod.fst

/-- The bound values in the order of their keys. -/
def values (map : SortedMap Key Value) : List Value := map.entries.map Prod.snd

/-- The number of bindings. -/
def size (map : SortedMap Key Value) : Nat := map.entries.length

/-- The map of a list of bindings; of two for one key the later one holds. -/
def ofList [Std.TransOrd Key] [Std.LawfulEqOrd Key] (entries : List (Key × Value)) :
    SortedMap Key Value :=
  entries.foldl (fun map entry => map.insert entry.1 entry.2) empty

theorem eq_of_entries {first second : SortedMap Key Value} (same : first.entries = second.entries) :
    first = second := by
  cases first; cases second; cases same; rfl

instance [DecidableEq Key] [DecidableEq Value] : DecidableEq (SortedMap Key Value) :=
  fun first second =>
    if same : first.entries = second.entries then isTrue (eq_of_entries same)
    else isFalse fun equal => same (equal ▸ rfl)

end SortedMap

end Deskbar
