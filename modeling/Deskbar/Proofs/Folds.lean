/-
This file holds what is used about loops, which are folds of one step over a list: loops in which
no step changes anything, or nothing that shows, loops in which one step brings about what the
others keep, loops that note down what their steps do, loops of which only a view is followed, and
walks that stop at the first fault.
-/

import Mathlib.Data.List.Basic
import Mathlib.Data.List.Forall2

namespace Deskbar

section Loops

variable {State Item : Type} {step : State → Item → State} {items : List Item} {state : State}

theorem foldl_eq_self (fixed : ∀ item ∈ items, step state item = state) :
    items.foldl step state = state := by
  refine List.foldlRecOn items step (motive := fun next => next = state) rfl ?_
  intro next same item member
  rw [same, fixed item member]

/-- A view that no step changes is not changed by a loop. -/
theorem foldl_view {View : Type} (view : State → View)
    (kept : ∀ state item, view (step state item) = view state) (items : List Item)
    (state : State) : view (items.foldl step state) = view state :=
  List.foldlRecOn items step (motive := fun next => view next = view state) rfl
    fun next same item _ => (kept next item).trans same

/-- What the step for one item brings about, and what the steps for the others keep, is true at the
end of a loop over all of them. -/
theorem foldl_of_mem (invariant goal : State → Prop) {item : Item} (member : item ∈ items)
    (kept : ∀ state, invariant state → ∀ other ∈ items, invariant (step state other))
    (established : ∀ state, invariant state → goal (step state item))
    (lasting : ∀ state, invariant state → goal state → ∀ other ∈ items, other ≠ item →
      goal (step state other))
    (start : invariant state) : goal (items.foldl step state) := by
  classical
  obtain ⟨before, after, rfl⟩ := List.append_of_mem member
  have atItem : invariant (before.foldl step state) :=
    List.foldlRecOn before step start fun next holds other otherMember =>
      kept next holds other (List.mem_append_left _ otherMember)
  rw [List.foldl_append, List.foldl_cons]
  refine (List.foldlRecOn after step (motive := fun next => invariant next ∧ goal next)
    ⟨kept _ atItem item member, established _ atItem⟩ ?_).2
  intro next ⟨holds, reached⟩ other otherMember
  have listed : other ∈ before ++ item :: after :=
    List.mem_append_right _ (List.mem_cons_of_mem _ otherMember)
  refine ⟨kept next holds other listed, ?_⟩
  by_cases same : other = item
  · rw [same]
    exact established next holds
  · exact lasting next holds reached other listed same

end Loops

/-! ### Notes -/

section Notes

variable {State Item Note : Type} {step : State → Item → State}
  {note otherNote : State → Item → List Note} {mark : Note} {items : List Item} {state : State}

/-- What the steps of a loop note down, each of them in the state that it finds. -/
def noted (step : State → Item → State) (note : State → Item → List Note) :
    State → List Item → List Note
  | _, [] => []
  | state, item :: rest => note state item ++ noted step note (step state item) rest

/-- A loop that goes on notes down what it did before it was left, and then what it does. -/
theorem noted_append {later : List Item} :
    noted step note state (items ++ later) =
      noted step note state items ++ noted step note (items.foldl step state) later := by
  induction items generalizing state with
  | nil => rfl
  | cons item rest inductionHypothesis =>
    rw [List.cons_append, noted, noted, inductionHypothesis, List.append_assoc, List.foldl_cons]

/-- What every step keeps that does not note a mark down, a loop keeps that does not. -/
theorem foldl_of_not_mem_noted (motive : State → Prop)
    (kept : ∀ state, motive state → ∀ item ∈ items, mark ∉ note state item →
      motive (step state item))
    (absent : mark ∉ noted step note state items) (start : motive state) :
    motive (items.foldl step state) := by
  induction items generalizing state with
  | nil => exact start
  | cons item rest inductionHypothesis =>
    obtain ⟨notHere, notLater⟩ := not_or.mp fun either => absent (List.mem_append.mpr either)
    refine inductionHypothesis (fun next holds other member => ?_) notLater
      (kept state start item List.mem_cons_self notHere)
    exact kept next holds other (List.mem_cons_of_mem _ member)

/-- What a loop takes away from a view exactly in the steps that note a mark down is there at its
end if it was there before and the loop does not note the mark down. -/
theorem foldl_iff_not_mem_noted (invariant view : State → Prop)
    (kept : ∀ state, invariant state → ∀ item, invariant (step state item))
    (stepped : ∀ state, invariant state → ∀ item,
      (view (step state item) ↔ view state ∧ mark ∉ note state item))
    (start : invariant state) :
    view (items.foldl step state) ↔ view state ∧ mark ∉ noted step note state items := by
  induction items generalizing state with
  | nil => exact (and_iff_left List.not_mem_nil).symm
  | cons item rest inductionHypothesis =>
    rw [List.foldl_cons, inductionHypothesis (kept state start item), stepped state start item,
      noted, List.mem_append, not_or, and_assoc]

/-- What a loop adds to a view exactly in the steps that note a mark down is there at its end if it
was there before or the loop notes the mark down. -/
theorem foldl_iff_or_mem_noted (invariant view : State → Prop)
    (kept : ∀ state, invariant state → ∀ item, invariant (step state item))
    (stepped : ∀ state, invariant state → ∀ item,
      (view (step state item) ↔ view state ∨ mark ∈ note state item))
    (start : invariant state) :
    view (items.foldl step state) ↔ view state ∨ mark ∈ noted step note state items := by
  induction items generalizing state with
  | nil => exact (or_iff_left List.not_mem_nil).symm
  | cons item rest inductionHypothesis =>
    rw [List.foldl_cons, inductionHypothesis (kept state start item), stepped state start item,
      noted, List.mem_append, or_assoc]

/-- A loop notes down what one of its items makes it note down in the state after those before. -/
theorem mem_noted_iff :
    mark ∈ noted step note state items ↔
      ∃ earlier item later, items = earlier ++ item :: later ∧
        mark ∈ note (earlier.foldl step state) item := by
  induction items generalizing state with
  | nil =>
    refine iff_of_false List.not_mem_nil ?_
    rintro ⟨earlier, item, later, split, -⟩
    exact List.append_ne_nil_of_right_ne_nil earlier (List.cons_ne_nil item later) split.symm
  | cons first rest inductionHypothesis =>
    rw [noted, List.mem_append, inductionHypothesis]
    constructor
    · rintro (here | ⟨earlier, item, later, rfl, there⟩)
      · exact ⟨[], first, rest, rfl, here⟩
      · exact ⟨first :: earlier, item, later, rfl, there⟩
    · rintro ⟨earlier, item, later, split, there⟩
      rcases List.cons_eq_append_iff.mp split with ⟨rfl, same⟩ | ⟨others, rfl, rfl⟩
      · obtain ⟨rfl, rfl⟩ := List.cons.inj same
        exact Or.inl there
      · exact Or.inr ⟨others, item, later, rfl, there⟩

/-- Steps that note down two things note them down one by one. -/
theorem mem_noted_append_iff :
    mark ∈ noted step (fun state item => note state item ++ otherNote state item) state items ↔
      mark ∈ noted step note state items ∨ mark ∈ noted step otherNote state items := by
  induction items generalizing state with
  | nil => simp only [noted, List.not_mem_nil, or_false]
  | cons item rest inductionHypothesis =>
    simp only [noted, List.mem_append, inductionHypothesis]
    exact or_or_or_comm

end Notes

/-! ### Chains of steps -/

/-- Steps of a relation that are taken one after the other, one for each item. -/
inductive Chained {Item State : Type} (step : Item → State → State → Prop) :
    List Item → State → State → Prop
  | nil (state : State) : Chained step [] state state
  | cons {item : Item} {items : List Item} {first between last : State}
      (head : step item first between) (tail : Chained step items between last) :
      Chained step (item :: items) first last

section Chains

variable {Item State : Type} {step : Item → State → State → Prop} {items : List Item}
  {first last : State}

/-- What every step keeps is true at the end of a chain. -/
theorem Chained.keeps {motive : State → Prop} (chained : Chained step items first last)
    (kept : ∀ item ∈ items, ∀ before after, step item before after → motive before → motive after)
    (start : motive first) : motive last := by
  induction chained with
  | nil state => exact start
  | cons head tail inductionHypothesis =>
    have later := fun item member => kept item (List.mem_cons_of_mem _ member)
    exact inductionHypothesis later (kept _ List.mem_cons_self _ _ head start)

/-- What the step for one item brings about, and what every step keeps, is true at the end of a
chain that has a step for the item. -/
theorem Chained.reaches {invariant goal : State → Prop} (chained : Chained step items first last)
    {item : Item} (member : item ∈ items)
    (kept : ∀ other ∈ items, ∀ before after, step other before after → invariant before →
      invariant after)
    (established : ∀ before after, step item before after → invariant before → goal after)
    (lasting : ∀ other ∈ items, ∀ before after, step other before after → goal before → goal after)
    (start : invariant first) : goal last := by
  induction chained with
  | nil state => cases member
  | cons head tail inductionHypothesis =>
    have later := fun other otherMember => lasting other (List.mem_cons_of_mem _ otherMember)
    rcases List.mem_cons.mp member with rfl | inTail
    · exact tail.keeps later (established _ _ head start)
    · exact inductionHypothesis inTail
        (fun other otherMember => kept other (List.mem_cons_of_mem _ otherMember)) later
        (kept _ List.mem_cons_self _ _ head start)

/-- A loop is a chain for someone who sees no more of its state than a view, if every step is a step
to the view. -/
theorem chained_foldl {Full : Type} (view : Full → State) {loop : Full → Item → Full}
    (invariant : Full → Prop)
    (simulated : ∀ full, invariant full → ∀ item,
      invariant (loop full item) ∧ step item (view full) (view (loop full item)))
    (items : List Item) {full : Full} (start : invariant full) :
    Chained step items (view full) (view (items.foldl loop full)) := by
  induction items generalizing full with
  | nil => exact Chained.nil _
  | cons item rest inductionHypothesis =>
    obtain ⟨kept, head⟩ := simulated full start item
    exact Chained.cons head (inductionHypothesis kept)

end Chains

/-! ### Walks that may fail -/

theorem bind_eq_ok_iff {Fault First Second : Type} {action : Except Fault First}
    {next : First → Except Fault Second} {result : Second} :
    action >>= next = .ok result ↔ ∃ value, action = .ok value ∧ next value = .ok result := by
  cases action with
  | error fault => simp [bind, Except.bind]
  | ok value =>
    refine ⟨fun after => ⟨value, rfl, after⟩, ?_⟩
    rintro ⟨_, same, after⟩
    rw [Except.ok.inj same]
    exact after

theorem bind_eq_error_iff {Fault First Second : Type} {action : Except Fault First}
    {next : First → Except Fault Second} {fault : Fault} :
    action >>= next = .error fault ↔
      action = .error fault ∨ ∃ value, action = .ok value ∧ next value = .error fault := by
  cases action with
  | error first => simp [bind, Except.bind]
  | ok value => simp [bind, Except.bind]

/-- A walk that collects succeeds where each of its steps does. -/
theorem mapM_eq_ok_iff {Item Fault Result : Type} {step : Item → Except Fault Result}
    {items : List Item} {results : List Result} :
    items.mapM step = .ok results ↔
      List.Forall₂ (fun item result => step item = .ok result) items results := by
  induction items generalizing results with
  | nil =>
    rw [List.mapM_nil, List.forall₂_nil_left_iff]
    exact ⟨fun same => (Except.ok.inj same).symm, fun same => congrArg Except.ok same.symm⟩
  | cons item items inductionHypothesis =>
    simp only [List.mapM_cons, bind_eq_ok_iff, inductionHypothesis, List.forall₂_cons_left_iff]
    constructor
    · rintro ⟨result, head, results, tail, same⟩
      exact ⟨result, results, head, tail, (Except.ok.inj same).symm⟩
    · rintro ⟨result, results, head, tail, rfl⟩
      exact ⟨result, head, results, tail, rfl⟩

/-- A walk that keeps the addresses it has seen comes to its end when it meets no address twice and
nothing wrong under any of them. -/
theorem foldlM_eq_ok_iff {Item Fault : Type}
    {step : List String → Item → Except Fault (List String)} (address : Item → String)
    {good : Item → Prop}
    (passes : ∀ seen item result, step seen item = .ok result ↔
      (address item ∉ seen ∧ good item) ∧ result = address item :: seen)
    (items : List Item) (seen result : List String) :
    items.foldlM step seen = .ok result ↔
      ((items.map address).Nodup ∧ ∀ item ∈ items, address item ∉ seen ∧ good item) ∧
        result = (items.map address).reverse ++ seen := by
  induction items generalizing seen with
  | nil =>
    rw [List.foldlM_nil]
    exact ⟨fun same => ⟨⟨List.nodup_nil, fun _ member => absurd member List.not_mem_nil⟩,
      (Except.ok.inj same).symm⟩,
      fun same => congrArg Except.ok same.2.symm⟩
  | cons first rest inductionHypothesis =>
    have unfolded : (first :: rest).foldlM step seen = .ok result ↔
        (address first ∉ seen ∧ good first) ∧
          rest.foldlM step (address first :: seen) = .ok result := by
      simp only [List.foldlM_cons, bind_eq_ok_iff, passes]
      exact ⟨fun ⟨_, ⟨passed, same⟩, after⟩ => ⟨passed, same ▸ after⟩,
        fun ⟨passed, after⟩ => ⟨_, ⟨passed, rfl⟩, after⟩⟩
    rw [unfolded, inductionHypothesis]
    simp only [List.map_cons, List.nodup_cons, List.mem_map, List.mem_cons, not_or, not_exists,
      not_and, forall_eq_or_imp, List.reverse_cons, List.append_assoc, List.singleton_append]
    constructor
    · rintro ⟨passed, ⟨distinct, fresh⟩, same⟩
      exact ⟨⟨⟨fun item member equal => (fresh item member).1.1 equal, distinct⟩, passed,
        fun item member => ⟨(fresh item member).1.2, (fresh item member).2⟩⟩, same⟩
    · rintro ⟨⟨⟨apart, distinct⟩, passed, fresh⟩, same⟩
      exact ⟨passed, ⟨distinct, fun item member =>
        ⟨⟨apart item member, (fresh item member).1⟩, (fresh item member).2⟩⟩, same⟩

end Deskbar
