/-
This file says in which order an arrangement puts workspaces. Every arrangement has a measure of its
own, and workspaces that measure the same stand in the order of their creation. The keys of
workspaces differ, so there is one order only, and it does not matter in which one the workspaces
come in. Special workspaces can be put in the middle, where they stand in the order of creation with
the first half of the others in front of them.
-/

import Mathlib
import Deskbar.Proofs.ByteOrder
import Deskbar.Proofs.Display

namespace Deskbar

namespace Workspace

/-! ### Measures -/

/-- The id. Workspaces without one come last. -/
def idMeasure (workspace : Workspace) : WithTop Int := workspace.id.elim ⊤ WithTop.some

/-- The number that the name is. Workspaces with other names come last. -/
def numberMeasure (workspace : Workspace) : WithTop Int :=
  (Text.readWord64? workspace.name).elim ⊤ WithTop.some

/-- The bytes of the name. -/
def nameMeasure (workspace : Workspace) : List UInt8 := Text.bytes workspace.name

/-- Whether the monitor is unknown, and where it is if it is known. -/
def placeMeasure (monitors : List ReportedMonitor) (workspace : Workspace) :
    Bool ×ₗ Int ×ₗ Int :=
  match monitors.find? fun monitor => monitor.name = workspace.output with
  | some monitor => toLex (false, toLex (monitor.x, monitor.y))
  | none => toLex (true, toLex (0, 0))

/-- Whether a workspace stands before another one: by a measure, and by the order of creation where
they measure the same. -/
def Precedes {Measure : Type} [LT Measure] (measure : Workspace → Measure)
    (first second : Workspace) : Prop :=
  toLex (measure first, first.key) < toLex (measure second, second.key)

/-! ### Comparisons -/

/-- Whether workspaces are compared by a measure. -/
structure ComparesBy {Measure : Type} [LT Measure] (order : Workspace → Workspace → Ordering)
    (measure : Workspace → Measure) : Prop where
  lt_iff : ∀ first second, order first second = .lt ↔ measure first < measure second
  eq_iff : ∀ first second, order first second = .eq ↔ measure first = measure second

theorem comparesBy_compareOn {Measure : Type} [LinearOrder Measure]
    (measure : Workspace → Measure) : ComparesBy (compareOn measure) measure where
  lt_iff _ _ := compare_lt_iff_lt
  eq_iff _ _ := compare_eq_iff_eq

theorem comparesBy_compareLex {Measure MeasureToo : Type} [LT Measure] [LT MeasureToo]
    {order orderToo : Workspace → Workspace → Ordering} {measure : Workspace → Measure}
    {measureToo : Workspace → MeasureToo} (compares : ComparesBy order measure)
    (comparesToo : ComparesBy orderToo measureToo) :
    ComparesBy (compareLex order orderToo) fun workspace =>
      toLex (measure workspace, measureToo workspace) where
  lt_iff first second := by
    rw [compareLex, Ordering.then_eq_lt, compares.lt_iff, compares.eq_iff, comparesToo.lt_iff,
      Prod.Lex.toLex_lt_toLex]
  eq_iff first second := by
    rw [compareLex, Ordering.then_eq_eq, compares.eq_iff, comparesToo.eq_iff]
    exact (toLex_inj.trans Prod.mk_inj).symm

/-- A number that may be missing is compared by whether it is and then by its value. So workspaces
without one come last. -/
theorem comparesBy_optional (value? : Workspace → Option Int) :
    ComparesBy (compareLex (compareOn fun workspace => (value? workspace).isNone)
      (compareOn fun workspace => (value? workspace).getD 0))
      fun workspace => (value? workspace).elim (⊤ : WithTop Int) WithTop.some where
  lt_iff first second := by
    rw [compareLex, compareOn, compareOn]
    cases value? first <;> cases value? second
    case none.none => simp
    case none.some =>
      exact ⟨fun before => (by cases before), fun before => absurd before (by simp)⟩
    case some.none => exact ⟨fun _ => WithTop.coe_lt_top _, fun _ => rfl⟩
    case some.some value valueToo => exact compare_lt_iff_lt.trans WithTop.coe_lt_coe.symm
  eq_iff first second := by
    rw [compareLex, compareOn, compareOn]
    cases value? first <;> cases value? second
    case none.none => simp
    case none.some => exact ⟨fun tie => (by cases tie), fun tie => absurd tie.symm (by simp)⟩
    case some.none => exact ⟨fun tie => (by cases tie), fun tie => absurd tie (by simp)⟩
    case some.some value valueToo => exact compare_eq_iff_eq.trans WithTop.coe_inj.symm

theorem comparesBy_compareId : ComparesBy compareId idMeasure := comparesBy_optional id

theorem comparesBy_compareNumber : ComparesBy compareNumber numberMeasure :=
  comparesBy_optional number?

theorem comparesBy_compareName : ComparesBy (compareOn name) nameMeasure where
  lt_iff first second := ((comparesBy_compareOn name).lt_iff first second).trans
    Text.bytes_lt_iff.symm
  eq_iff first second := ((comparesBy_compareOn name).eq_iff first second).trans
    Text.bytes_injective.eq_iff.symm

theorem comparesBy_comparePlace (monitors : List ReportedMonitor) :
    ComparesBy (comparePlace monitors) (placeMeasure monitors) := by
  have parts : placeMeasure monitors = fun workspace =>
      toLex ((workspace.place? monitors).isNone,
        toLex (((workspace.place? monitors).getD (0, 0)).1,
          ((workspace.place? monitors).getD (0, 0)).2)) := by
    funext workspace
    rw [placeMeasure, place?]
    cases monitors.find? fun monitor => monitor.name = workspace.output <;> rfl
  rw [parts]
  exact comparesBy_compareLex (comparesBy_compareOn _)
    (comparesBy_compareLex (comparesBy_compareOn _) (comparesBy_compareOn _))

instance : Std.TransCmp compareId := inferInstanceAs (Std.TransCmp (compareLex _ _))

instance : Std.TransCmp compareNumber := inferInstanceAs (Std.TransCmp (compareLex _ _))

instance (monitors : List ReportedMonitor) : Std.TransCmp (comparePlace monitors) :=
  inferInstanceAs (Std.TransCmp (compareLex _ (compareLex _ _)))

/-! ### Sorting -/

section Sorting

variable {Measure : Type} [LT Measure] {order : Workspace → Workspace → Ordering}
  {measure : Workspace → Measure} {list : List Workspace}

/-- Workspaces with different keys do not tie. -/
theorem pairwise_ne_eq (distinct : (list.map key).Nodup) :
    list.Pairwise fun first second => compareLex order (compareOn key) first second ≠ .eq := by
  refine (List.pairwise_map.mp distinct).imp fun apart tie => apart ?_
  exact ((comparesBy_compareOn key).eq_iff _ _).mp (Ordering.then_eq_eq.mp tie).2

/-- Sorting by a comparison brings about the order of its measure. -/
theorem sortThenByKey_pairwise [Std.TransCmp order] (compares : ComparesBy order measure)
    (distinct : (list.map key).Nodup) :
    (sortThenByKey order list).Pairwise (Precedes measure) :=
  (sortBy_pairwise_lt (pairwise_ne_eq distinct)).imp fun before =>
    ((comparesBy_compareLex compares (comparesBy_compareOn key)).lt_iff _ _).mp before

theorem sortThenByKey_eq_of_perm [Std.TransCmp order] {listToo : List Workspace}
    (distinct : (list.map key).Nodup) (same : listToo.Perm list) :
    sortThenByKey order listToo = sortThenByKey order list :=
  sortBy_eq_of_perm (pairwise_ne_eq distinct) same

/-- Workspaces that are sorted by their keys are in the order of their creation. -/
theorem sortBy_key_pairwise (distinct : (list.map key).Nodup) :
    (sortBy (compareOn key) list).Pairwise (Precedes fun _ => ()) :=
  sortThenByKey_pairwise (comparesBy_compareOn fun _ => ()) distinct

theorem sortBy_key_eq_of_perm {listToo : List Workspace} (distinct : (list.map key).Nodup)
    (same : listToo.Perm list) : sortBy (compareOn key) listToo = sortBy (compareOn key) list :=
  @sortThenByKey_eq_of_perm (compareOn fun _ => ()) _ _ _ distinct same

end Sorting

/-- Workspaces that all measure the same stand in the order of their creation. -/
theorem precedes_unit_iff {first second : Workspace} :
    Precedes (fun _ => ()) first second ↔ first.key < second.key := by
  rw [Precedes, Prod.Lex.toLex_lt_toLex]
  exact ⟨fun before => before.elim (absurd · (lt_irrefl _)) And.right,
    fun less => Or.inr ⟨rfl, less⟩⟩

theorem nodup_map_key_filter {list : List Workspace} (distinct : (list.map key).Nodup)
    (test : Workspace → Bool) : ((list.filter test).map key).Nodup :=
  distinct.sublist (List.filter_sublist.map key)

theorem centered_eq_of_perm {list listToo : List Workspace} (distinct : (list.map key).Nodup)
    (same : listToo.Perm list) : centered listToo = centered list := by
  rw [centered, centered,
    sortThenByKey_eq_of_perm (nodup_map_key_filter distinct _) (same.filter _),
    sortBy_key_eq_of_perm (nodup_map_key_filter distinct _) (same.filter _)]

end Workspace

namespace Arrangement

open Workspace

/-! ### Arrangements -/

/-- Whether an arrangement of a list puts a workspace before another one. Names are taken for
numbers if all names in the list are numbers. Special workspaces that are put in the middle do not
go by a measure; this is the order of the others. -/
def Precedes (arrangement : Arrangement) (monitors : List ReportedMonitor)
    (list : List Workspace) : Workspace → Workspace → Prop :=
  match arrangement with
  | .byId | .specialCentered => Workspace.Precedes idMeasure
  | .byName =>
    if ∀ workspace ∈ list, (Text.readWord64? workspace.name).isSome then
      Workspace.Precedes numberMeasure
    else Workspace.Precedes nameMeasure
  | .byNumber => Workspace.Precedes numberMeasure
  | .byPosition => Workspace.Precedes (placeMeasure monitors)
  | .byCreation => Workspace.Precedes fun _ => ()

variable {list listToo : List Workspace}

theorem sort_pairwise (arrangement : Arrangement) (monitors : List ReportedMonitor)
    (regular : arrangement ≠ .specialCentered) (distinct : (list.map key).Nodup) :
    (arrangement.sort monitors list).Pairwise (arrangement.Precedes monitors list) := by
  cases arrangement with
  | byId => exact sortThenByKey_pairwise comparesBy_compareId distinct
  | byName =>
    rw [sort, Precedes]
    by_cases numeric : ∀ workspace ∈ list, (Text.readWord64? workspace.name).isSome
    · have all : (list.all fun workspace => workspace.number?.isSome) = true :=
        List.all_eq_true.mpr numeric
      rw [if_pos numeric, if_pos all]
      exact sortThenByKey_pairwise comparesBy_compareNumber distinct
    · have notAll : ¬ (list.all fun workspace => workspace.number?.isSome) = true :=
        fun all => numeric (List.all_eq_true.mp all)
      rw [if_neg numeric, if_neg notAll]
      exact sortThenByKey_pairwise comparesBy_compareName distinct
  | byNumber => exact sortThenByKey_pairwise comparesBy_compareNumber distinct
  | specialCentered => exact absurd rfl regular
  | byPosition => exact sortThenByKey_pairwise (comparesBy_comparePlace monitors) distinct
  | byCreation => exact sortBy_key_pairwise distinct

/-- Workspaces are arranged in the same way in whichever order they come in. -/
theorem sort_eq_of_perm (arrangement : Arrangement) (monitors : List ReportedMonitor)
    (distinct : (list.map key).Nodup) (same : listToo.Perm list) :
    arrangement.sort monitors listToo = arrangement.sort monitors list := by
  cases arrangement with
  | byName =>
    rw [sort, sort, same.all_eq]
    split <;> exact sortThenByKey_eq_of_perm distinct same
  | specialCentered => exact centered_eq_of_perm distinct same
  | byCreation => exact sortBy_key_eq_of_perm distinct same
  | byId | byNumber | byPosition => exact sortThenByKey_eq_of_perm distinct same

/-- An arrangement puts workspaces in strictly ascending order of its measure and, where they
measure the same, of their creation. None is lost and none comes twice, and the order in which they
come in does not matter. -/
theorem sort_canonical (arrangement : Arrangement) (monitors : List ReportedMonitor)
    (list : List Workspace) (regular : arrangement ≠ .specialCentered)
    (distinct : (list.map key).Nodup) :
    (arrangement.sort monitors list).Perm list ∧
      (arrangement.sort monitors list).Pairwise (arrangement.Precedes monitors list) ∧
      ∀ listToo, listToo.Perm list →
        arrangement.sort monitors listToo = arrangement.sort monitors list :=
  ⟨arrangement.sort_perm monitors list, arrangement.sort_pairwise monitors regular distinct,
    fun _ same => arrangement.sort_eq_of_perm monitors distinct same⟩

/-- Workspaces with and without ids, and with names that are numbers and others. -/
def mixedWorkspaces : List Workspace :=
  [declared 5 "10" "DP-1", ofReport 2 { id := 9, name := "web" },
    ofReport 4 { id := -3, name := "9" }, declared 1 "mail" "DP-1"]

/-- With one name that is no number among them, the names go by their bytes, and by numbers those
come last that are none. -/
theorem sort_canonical_mixedWorkspaces :
    (mixedWorkspaces.map key).Nodup ∧
      (Arrangement.byName.sort [] mixedWorkspaces).map key = [5, 4, 1, 2] ∧
      (Arrangement.byNumber.sort [] mixedWorkspaces).map key = [4, 5, 1, 2] ∧
      (Arrangement.byName.sort [] mixedWorkspaces).Pairwise
        (Arrangement.byName.Precedes [] mixedWorkspaces) ∧
      Arrangement.byNumber.sort [] mixedWorkspaces.reverse =
        Arrangement.byNumber.sort [] mixedWorkspaces := by
  have distinct : (mixedWorkspaces.map key).Nodup := by decide +kernel
  refine ⟨distinct, by decide +kernel, by decide +kernel, ?_, ?_⟩
  · exact (sort_canonical .byName [] mixedWorkspaces (by decide) distinct).2.1
  · exact (sort_canonical .byNumber [] mixedWorkspaces (by decide) distinct).2.2 _
      (List.reverse_perm _)

/-! ### Special workspaces in the middle -/

/-- Whether the workspaces of a list are laid out with the special ones in the order of creation
and the others in two parts around them: by ids, the first part holding half of them rounded
down. -/
structure Surrounds (list front special back : List Workspace) : Prop where
  special_perm : special.Perm (list.filter fun workspace => workspace.flags.special)
  special_pairwise : special.Pairwise fun first second => first.key < second.key
  others_perm : (front ++ back).Perm (list.filter fun workspace => !workspace.flags.special)
  others_pairwise : (front ++ back).Pairwise (Workspace.Precedes idMeasure)
  length_front : front.length = (list.filter fun workspace => !workspace.flags.special).length / 2

/-- The special workspaces stand in the middle of the others. None is lost and none comes twice,
and the order in which they come in does not matter. -/
theorem sort_specialCentered (monitors : List ReportedMonitor) (list : List Workspace)
    (distinct : (list.map key).Nodup) :
    (∃ front special back,
      Arrangement.specialCentered.sort monitors list = front ++ special ++ back ∧
        Surrounds list front special back) ∧
      (Arrangement.specialCentered.sort monitors list).Perm list ∧
      ∀ listToo, listToo.Perm list →
        Arrangement.specialCentered.sort monitors listToo =
          Arrangement.specialCentered.sort monitors list := by
  refine ⟨?_, sort_perm .specialCentered monitors list,
    fun _ same => sort_eq_of_perm .specialCentered monitors distinct same⟩
  let others := list.filter fun workspace => !workspace.flags.special
  let sorted := sortThenByKey compareId others
  have sameLength : sorted.length = others.length := (sortBy_perm _ others).length_eq
  refine ⟨sorted.take (sorted.length / 2), _, sorted.drop (sorted.length / 2), rfl, ?_⟩
  exact {
    special_perm := sortBy_perm ..
    special_pairwise := (sortBy_key_pairwise (nodup_map_key_filter distinct _)).imp
      precedes_unit_iff.mp
    others_perm := by
      rw [List.take_append_drop]
      exact sortBy_perm ..
    others_pairwise := by
      rw [List.take_append_drop]
      exact sortThenByKey_pairwise comparesBy_compareId (nodup_map_key_filter distinct _)
    length_front := by
      rw [List.length_take, sameLength]
      exact min_eq_left (Nat.div_le_self ..) }

/-- Two special workspaces among three others, of which one has no id. -/
def specialWorkspaces : List Workspace :=
  [ofReport 5 { id := -98, name := "special:music" }, declared 1 "mail" "DP-1",
    ofReport 2 { id := 9, name := "web" }, ofReport 3 { id := -99, name := "special:magic" },
    ofReport 4 { id := 7, name := "code" }]

/-- One workspace stands in front of the special ones and two behind them. -/
theorem sort_specialCentered_specialWorkspaces :
    (specialWorkspaces.map key).Nodup ∧
      (Arrangement.specialCentered.sort [] specialWorkspaces).map key = [4, 3, 5, 2, 1] ∧
      (∃ front special back,
        Arrangement.specialCentered.sort [] specialWorkspaces = front ++ special ++ back ∧
          Surrounds specialWorkspaces front special back) ∧
      Arrangement.specialCentered.sort [] specialWorkspaces.reverse =
        Arrangement.specialCentered.sort [] specialWorkspaces := by
  have distinct : (specialWorkspaces.map key).Nodup := by decide +kernel
  have centered := sort_specialCentered [] specialWorkspaces distinct
  exact ⟨distinct, by decide +kernel, centered.1, centered.2.2 _ (List.reverse_perm _)⟩

end Arrangement

end Deskbar
