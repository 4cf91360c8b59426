/-
This file shows that sorting only changes the order of a list, and that the order it brings about
depends on nothing but how the elements compare. The first element of a sorted list that passes a
test is the one that comes first among all that do, and of several that compare as equal the one
that stood first in the list before.
-/

import Mathlib.Data.List.Perm.Basic
import Deskbar.Sorting

namespace Deskbar

variable {Element : Type} (order : Element → Element → Ordering)

theorem insertSorted_perm (element : Element) (list : List Element) :
    (insertSorted order element list).Perm (element :: list) := by
  induction list with
  | nil => rfl
  | cons first rest inductionHypothesis =>
    rw [insertSorted]
    split
    · exact (inductionHypothesis.cons first).trans (List.Perm.swap element first rest)
    · rfl

theorem sortBy_perm (list : List Element) : (sortBy order list).Perm list := by
  induction list with
  | nil => rfl
  | cons first rest inductionHypothesis =>
    exact (insertSorted_perm order first _).trans (inductionHypothesis.cons first)

/-- Lists are sorted alike when their elements compare alike. -/
theorem sortBy_map {change : Element → Element}
    (compares : ∀ first second, order (change first) (change second) = order first second)
    (list : List Element) : sortBy order (list.map change) = (sortBy order list).map change := by
  have inserted : ∀ element sorted, insertSorted order (change element) (sorted.map change) =
      (insertSorted order element sorted).map change := by
    intro element sorted
    induction sorted with
    | nil => rfl
    | cons first rest inductionHypothesis =>
      rw [List.map_cons, insertSorted, insertSorted, compares]
      split
      · rw [inductionHypothesis, List.map_cons]
      · rfl
  rw [sortBy, sortBy, List.foldr_map]
  show list.foldr (fun element => insertSorted order (change element)) ([].map change) = _
  exact List.foldr_hom (List.map change) inserted

/-! ### The first of a sorted list -/

/-- Whether an element comes first among those of a list that pass a test, and stands before those
of them that it ties with. -/
def Leads (test : Element → Bool) (list : List Element) (leader : Element) : Prop :=
  ∃ earlier later, list = earlier ++ leader :: later ∧ test leader = true ∧
    (∀ other ∈ earlier, test other = true → order leader other = .lt) ∧
    ∀ other ∈ later, test other = true → order leader other ≠ .gt

variable {order}

theorem insertSorted_pairwise [Std.TransCmp order] (element : Element) {list : List Element}
    (sorted : list.Pairwise fun first second => order first second ≠ .gt) :
    (insertSorted order element list).Pairwise fun first second => order first second ≠ .gt := by
  induction list with
  | nil => exact List.pairwise_singleton ..
  | cons first rest inductionHypothesis =>
    obtain ⟨below, restSorted⟩ := List.pairwise_cons.mp sorted
    rw [insertSorted]
    split
    · next after =>
      refine List.pairwise_cons.mpr ⟨fun other member => ?_, inductionHypothesis restSorted⟩
      rcases List.mem_cons.mp ((insertSorted_perm order element rest).mem_iff.mp member) with
        rfl | old
      · rw [Std.OrientedCmp.gt_iff_lt.mp after]
        exact Ordering.noConfusion
      · exact below other old
    · next notAfter =>
      refine List.pairwise_cons.mpr ⟨fun other member => ?_, sorted⟩
      rcases List.mem_cons.mp member with rfl | later
      · exact notAfter
      · exact Ordering.isLE_iff_ne_gt.mp (Std.TransCmp.isLE_trans
          (Ordering.isLE_iff_ne_gt.mpr notAfter) (Ordering.isLE_iff_ne_gt.mpr (below other later)))

theorem sortBy_pairwise [Std.TransCmp order] (list : List Element) :
    (sortBy order list).Pairwise fun first second => order first second ≠ .gt := by
  induction list with
  | nil => exact List.Pairwise.nil
  | cons first rest inductionHypothesis => exact insertSorted_pairwise first inductionHypothesis

/-- Whether elements tie does not depend on the order they come in. -/
theorem pairwise_ne_eq_of_perm [Std.OrientedCmp order] {list listToo : List Element}
    (same : listToo.Perm list)
    (apart : list.Pairwise fun first second => order first second ≠ .eq) :
    listToo.Pairwise fun first second => order first second ≠ .eq :=
  (same.pairwise_iff fun other tie => other (Std.OrientedCmp.eq_comm.mp tie)).mpr apart

/-- Elements that do not tie are in strictly ascending order once they are sorted. -/
theorem sortBy_pairwise_lt [Std.TransCmp order] {list : List Element}
    (apart : list.Pairwise fun first second => order first second ≠ .eq) :
    (sortBy order list).Pairwise fun first second => order first second = .lt := by
  have stillApart := pairwise_ne_eq_of_perm (sortBy_perm order list) apart
  refine (sortBy_pairwise list).imp₂ (fun first second notAfter other => ?_) stillApart
  cases compared : order first second with
  | lt => rfl
  | eq => exact absurd compared other
  | gt => exact absurd compared notAfter

/-- Where elements do not tie, the order they come in does not matter. -/
theorem sortBy_eq_of_perm [Std.TransCmp order] {list listToo : List Element}
    (apart : list.Pairwise fun first second => order first second ≠ .eq)
    (same : listToo.Perm list) : sortBy order listToo = sortBy order list := by
  have apartToo := pairwise_ne_eq_of_perm same apart
  refine List.Perm.eq_of_pairwise (fun first second _ _ before after => ?_)
    (sortBy_pairwise_lt apartToo) (sortBy_pairwise_lt apart)
    ((sortBy_perm order listToo).trans (same.trans (sortBy_perm order list).symm))
  cases before.symm.trans (Std.OrientedCmp.gt_iff_lt.mpr after)

/-- An element that fails a test does not change which one is found. -/
theorem find?_insertSorted_of_fails {test : Element → Bool} {element : Element}
    (fails : test element = false) (list : List Element) :
    (insertSorted order element list).find? test = list.find? test := by
  induction list with
  | nil => rw [insertSorted, List.find?_cons_of_neg (by rw [fails]; exact Bool.false_ne_true)]
  | cons first rest inductionHypothesis =>
    rw [insertSorted]
    split
    · rw [List.find?_cons, List.find?_cons, inductionHypothesis]
    · rw [List.find?_cons_of_neg (by rw [fails]; exact Bool.false_ne_true)]

/-- An element that passes a test is found in a sorted list unless it comes after the one that was
found before. -/
theorem find?_insertSorted_of_passes [Std.TransCmp order] {test : Element → Bool}
    {element : Element} (passes : test element = true) {list : List Element}
    (sorted : list.Pairwise fun first second => order first second ≠ .gt) :
    (insertSorted order element list).find? test =
      match list.find? test with
      | some found => if order element found = .gt then some found else some element
      | none => some element := by
  induction list with
  | nil => rw [insertSorted, List.find?_cons_of_pos passes, List.find?_nil]
  | cons first rest inductionHypothesis =>
    obtain ⟨below, restSorted⟩ := List.pairwise_cons.mp sorted
    rw [insertSorted]
    split
    · next after =>
      rw [List.find?_cons, List.find?_cons, inductionHypothesis restSorted]
      cases test first with
      | true => exact (if_pos after).symm
      | false => rfl
    · next notAfter =>
      rw [List.find?_cons_of_pos passes]
      cases found : (first :: rest).find? test with
      | none => rfl
      | some other =>
        refine (if_neg ?_).symm
        rcases List.mem_cons.mp (List.mem_of_find?_eq_some found) with rfl | later
        · exact notAfter
        · exact Ordering.isLE_iff_ne_gt.mp (Std.TransCmp.isLE_trans
            (Ordering.isLE_iff_ne_gt.mpr notAfter)
            (Ordering.isLE_iff_ne_gt.mpr (below other later)))

namespace Leads

variable {test : Element → Bool} {rest list : List Element} {first second leader : Element}

/-- An element comes first still when one that it comes before is put in front of the list. -/
theorem cons (leads : Leads order test list leader)
    (beats : test first = true → order leader first = .lt) :
    Leads order test (first :: list) leader := by
  obtain ⟨earlier, later, rfl, passes, above, notBelow⟩ := leads
  refine ⟨first :: earlier, later, rfl, passes, fun other member otherPasses => ?_, notBelow⟩
  rcases List.mem_cons.mp member with rfl | old
  · exact beats otherPasses
  · exact above other old otherPasses

/-- An element that is put in front of a list comes first unless it comes after another one. -/
theorem head (passes : test first = true)
    (notBelow : ∀ other ∈ list, test other = true → order first other ≠ .gt) :
    Leads order test (first :: list) first :=
  ⟨[], list, rfl, passes, fun _ member => absurd member List.not_mem_nil, notBelow⟩

theorem ne_gt [Std.ReflCmp order] (leads : Leads order test list leader) {other : Element}
    (member : other ∈ list) (passes : test other = true) : order leader other ≠ .gt := by
  obtain ⟨earlier, later, rfl, -, above, notBelow⟩ := leads
  rcases List.mem_append.mp member with before | here
  · rw [above other before passes]
    exact Ordering.noConfusion
  · rcases List.mem_cons.mp here with same | after
    · have tie : order leader leader = .eq := Std.ReflCmp.compare_self
      rw [same, tie]
      exact Ordering.noConfusion
    · exact notBelow other after passes

/-- No two elements come first. -/
theorem unique [Std.OrientedCmp order] (leads : Leads order test list first)
    (leadsToo : Leads order test list second) : first = second := by
  obtain ⟨earlier, later, rfl, passes, above, notBelow⟩ := leads
  obtain ⟨earlierToo, laterToo, same, passesToo, aboveToo, notBelowToo⟩ := leadsToo
  rcases List.append_eq_append_iff.mp same with ⟨between, rfl, rest⟩ | ⟨between, rfl, rest⟩
  · cases between with
    | nil => exact (List.cons.inj rest).1
    | cons head tail =>
      obtain ⟨rfl, rfl⟩ := List.cons.inj rest
      have greater := aboveToo first (by simp) passes
      exact absurd (Std.OrientedCmp.gt_iff_lt.mpr greater) (notBelow second (by simp) passesToo)
  · cases between with
    | nil => exact (List.cons.inj rest).1.symm
    | cons head tail =>
      obtain ⟨rfl, rfl⟩ := List.cons.inj rest
      have greater := above second (by simp) passesToo
      exact absurd (Std.OrientedCmp.gt_iff_lt.mpr greater) (notBelowToo first (by simp) passes)

/-- What comes first among the elements made of some sources is made of the source that comes first,
if sources compare as what is made of them and pass when it does. -/
theorem of_filterMap {Source : Type} {make : Source → Option Element}
    {sourceOrder : Source → Source → Ordering} {sourceTest : Source → Bool} {sources : List Source}
    (compares : ∀ {source other made otherMade}, make source = some made →
      make other = some otherMade → order made otherMade = sourceOrder source other)
    (passes : ∀ source, sourceTest source = true ↔
      ∃ made, make source = some made ∧ test made = true)
    (leads : Leads order test (sources.filterMap make) leader) :
    ∃ source, make source = some leader ∧ Leads sourceOrder sourceTest sources source := by
  obtain ⟨earlier, later, among, leaderPasses, above, notBelow⟩ := leads
  obtain ⟨before, rest, rfl, rfl, behind⟩ := List.filterMap_eq_append_iff.mp among
  obtain ⟨skipped, source, after, rfl, dropped, made, rfl⟩ := List.filterMap_eq_cons_iff.mp behind
  refine ⟨source, made, before ++ skipped, after, (List.append_assoc ..).symm,
    (passes source).mpr ⟨leader, made, leaderPasses⟩, fun other member otherPasses => ?_,
    fun other member otherPasses => ?_⟩
  · obtain ⟨otherMade, makes, madePasses⟩ := (passes other).mp otherPasses
    rw [← compares made makes]
    rcases List.mem_append.mp member with old | unmade
    · exact above otherMade (List.mem_filterMap.mpr ⟨other, old, makes⟩) madePasses
    · cases (dropped other unmade).symm.trans makes
  · obtain ⟨otherMade, makes, madePasses⟩ := (passes other).mp otherPasses
    rw [← compares made makes]
    exact notBelow otherMade (List.mem_filterMap.mpr ⟨other, member, makes⟩) madePasses

end Leads

/-- The element that is found in a sorted list is the one that comes first among those that pass the
test. -/
theorem leads_of_find?_sortBy [Std.TransCmp order] {test : Element → Bool} {list : List Element}
    {leader : Element} (found : (sortBy order list).find? test = some leader) :
    Leads order test list leader := by
  induction list generalizing leader with
  | nil => cases found
  | cons first rest inductionHypothesis =>
    change (insertSorted order first (sortBy order rest)).find? test = some leader at found
    cases passes : test first with
    | false =>
      rw [find?_insertSorted_of_fails passes] at found
      exact (inductionHypothesis found).cons fun firstPasses => by
        cases passes.symm.trans firstPasses
    | true =>
      rw [find?_insertSorted_of_passes passes (sortBy_pairwise rest)] at found
      cases restFound : (sortBy order rest).find? test with
      | none =>
        rw [restFound] at found
        obtain rfl := Option.some.inj found
        exact Leads.head passes fun other member otherPasses => absurd otherPasses
          (List.find?_eq_none.mp restFound other ((sortBy_perm order rest).mem_iff.mpr member))
      | some second =>
        have leads := inductionHypothesis restFound
        rw [restFound] at found
        dsimp only at found
        split at found
        · next after =>
          obtain rfl := Option.some.inj found
          exact leads.cons fun _ => Std.OrientedCmp.gt_iff_lt.mp after
        · next notAfter =>
          obtain rfl := Option.some.inj found
          refine Leads.head passes fun other member otherPasses => ?_
          exact Ordering.isLE_iff_ne_gt.mp (Std.TransCmp.isLE_trans
            (Ordering.isLE_iff_ne_gt.mpr notAfter)
            (Ordering.isLE_iff_ne_gt.mpr (leads.ne_gt member otherPasses)))

end Deskbar
