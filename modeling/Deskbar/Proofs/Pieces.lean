/-
This file shows that a text which has been cut can be put together again, and that there is only one
way to cut it. No separator begins in front of the first one, and none is behind the last one. Of
the pieces of a text only the last one holds separators, and it does only if there are more of them
than the number of pieces allows for.
-/

import Mathlib.Data.List.Infix
import Deskbar.Text.Pieces

namespace Deskbar.Text

/-! ### The first of several separators -/

section First

variable {lead separator text before after rest : List Char}

theorem afterLead_eq_some_iff : afterLead lead text = some rest ↔ text = lead ++ rest := by
  induction lead generalizing text with
  | nil =>
    rw [afterLead, List.nil_append]
    exact Option.some_inj
  | cons c lead inductionHypothesis =>
    cases text with
    | nil =>
      rw [afterLead]
      exact ⟨fun found => (by cases found), fun whole => (by cases whole)⟩
    | cons d text =>
      rw [afterLead, List.cons_append, List.cons.injEq]
      split
      · next same => exact inductionHypothesis.trans ⟨fun whole => ⟨same.symm, whole⟩, And.right⟩
      · next other =>
        exact ⟨fun found => (by cases found), fun whole => absurd whole.1.symm other⟩

theorem afterLead_eq_none_iff : afterLead lead text = none ↔ ¬ lead <+: text := by
  rw [Option.eq_none_iff_forall_ne_some]
  constructor
  · rintro absent ⟨rest, rfl⟩
    exact absent rest (afterLead_eq_some_iff.mpr rfl)
  · intro absent rest found
    exact absent ⟨rest, (afterLead_eq_some_iff.mp found).symm⟩

/-- A text is cut at a separator in front of which none begins. -/
theorem cutAtFirst_eq_some_iff (nonempty : separator ≠ []) :
    cutAtFirst separator text = some (before, after) ↔
      text = before ++ separator ++ after ∧
        ∀ place < before.length, ¬ separator <+: text.drop place := by
  induction text generalizing before with
  | nil =>
    rw [cutAtFirst, if_neg nonempty]
    refine ⟨fun cut => (by cases cut), fun cut => absurd cut.1.symm fun empty => ?_⟩
    exact nonempty (List.append_eq_nil_iff.mp (List.append_eq_nil_iff.mp empty).1).2
  | cons c rest inductionHypothesis =>
    rw [cutAtFirst]
    cases found : afterLead separator (c :: rest) with
    | some behind =>
      have whole := afterLead_eq_some_iff.mp found
      constructor
      · rintro ⟨rfl, rfl⟩
        exact ⟨whole, fun place before => absurd before (Nat.not_lt_zero place)⟩
      · rintro ⟨cut, clear⟩
        cases before with
        | nil => rw [List.append_cancel_left (whole.symm.trans cut)]
        | cons d others => exact absurd ⟨behind, whole.symm⟩ (clear 0 (Nat.zero_lt_succ _))
    | none =>
      have absent := afterLead_eq_none_iff.mp found
      show (cutAtFirst separator rest).map _ = _ ↔ _
      rw [Option.map_eq_some_iff]
      constructor
      · rintro ⟨⟨others, after⟩, cut, parts⟩
        cases parts
        obtain ⟨rfl, clear⟩ := inductionHypothesis.mp cut
        refine ⟨rfl, fun place within => ?_⟩
        cases place with
        | zero => exact absent
        | succ place => exact clear place (Nat.lt_of_succ_lt_succ within)
      · rintro ⟨cut, clear⟩
        cases before with
        | nil => exact absurd ⟨after, cut.symm⟩ absent
        | cons d others =>
          obtain ⟨rfl, behind⟩ := List.cons.inj cut
          exact ⟨(others, after), inductionHypothesis.mpr ⟨behind, fun place within =>
            clear (place + 1) (Nat.succ_lt_succ within)⟩, rfl⟩

/-- A text that is not cut holds no separator. -/
theorem cutAtFirst_eq_none_iff (nonempty : separator ≠ []) :
    cutAtFirst separator text = none ↔ ¬ separator <:+: text := by
  induction text with
  | nil => simp [cutAtFirst, nonempty]
  | cons c rest inductionHypothesis =>
    rw [cutAtFirst, List.infix_cons_iff, not_or, ← inductionHypothesis, ← afterLead_eq_none_iff]
    cases afterLead separator (c :: rest) with
    | some behind => simp
    | none => simp

end First

/-! ### Separators of one character -/

section Single

variable {separator : Char} {text before after : List Char}

/-- Two cuts at the first separator are the same. -/
theorem append_cons_inj {first second firstRest secondRest : List Char}
    (firstFree : separator ∉ first) (secondFree : separator ∉ second)
    (same : first ++ separator :: firstRest = second ++ separator :: secondRest) :
    first = second ∧ firstRest = secondRest := by
  induction first generalizing second with
  | nil =>
    cases second with
    | nil => exact ⟨rfl, (List.cons.inj same).2⟩
    | cons c others => exact absurd (List.mem_cons.mpr (Or.inl (List.cons.inj same).1)) secondFree
  | cons c others inductionHypothesis =>
    cases second with
    | nil => exact absurd (List.mem_cons.mpr (Or.inl (List.cons.inj same).1.symm)) firstFree
    | cons d rest =>
      obtain ⟨rfl, behind⟩ := List.cons.inj same
      obtain ⟨rfl, sameRest⟩ := inductionHypothesis (fun inOthers => firstFree (.tail c inOthers))
        (fun inRest => secondFree (.tail c inRest)) behind
      exact ⟨rfl, sameRest⟩

theorem cutAtLast_of_not_mem (free : separator ∉ text) : cutAtLast separator text = none := by
  induction text with
  | nil => rfl
  | cons c rest inductionHypothesis =>
    obtain ⟨other, restFree⟩ := List.ne_and_not_mem_of_not_mem_cons free
    rw [cutAtLast, inductionHypothesis restFree]
    exact if_neg fun same => other same.symm

theorem cutAtLast_append (free : separator ∉ after) :
    cutAtLast separator (before ++ separator :: after) = some (before, after) := by
  induction before with
  | nil =>
    rw [List.nil_append, cutAtLast, cutAtLast_of_not_mem free]
    exact if_pos rfl
  | cons c rest inductionHypothesis => rw [List.cons_append, cutAtLast, inductionHypothesis]

/-- A text with a separator is cut so that there is none behind the cut. -/
theorem exists_cutAtLast (held : separator ∈ text) :
    ∃ before after, text = before ++ separator :: after ∧ separator ∉ after := by
  obtain ⟨after, before, backwards, free⟩ :=
    List.eq_append_cons_of_mem (List.mem_reverse.mpr held)
  refine ⟨before.reverse, after.reverse, ?_, fun inAfter => free (List.mem_reverse.mp inAfter)⟩
  rw [← List.reverse_reverse text, backwards]
  simp

theorem cutAtLast_eq_none_iff : cutAtLast separator text = none ↔ separator ∉ text := by
  refine ⟨fun absent held => ?_, cutAtLast_of_not_mem⟩
  obtain ⟨before, after, rfl, free⟩ := exists_cutAtLast held
  cases absent.symm.trans (cutAtLast_append free)

theorem cutAtLast_eq_some_iff : cutAtLast separator text = some (before, after) ↔
    text = before ++ separator :: after ∧ separator ∉ after := by
  constructor
  · intro cut
    by_cases held : separator ∈ text
    · obtain ⟨front, behind, rfl, free⟩ := exists_cutAtLast held
      cases (cutAtLast_append free).symm.trans cut
      exact ⟨rfl, free⟩
    · cases (cutAtLast_of_not_mem held).symm.trans cut
  · rintro ⟨rfl, free⟩
    exact cutAtLast_append free

/-! ### Pieces -/

theorem pieces_one : pieces separator 1 text = [text] := by
  induction text with
  | nil => rfl
  | cons c rest inductionHypothesis =>
    rw [pieces, if_neg fun limited => absurd limited.2 (Nat.lt_irrefl 1), inductionHypothesis]

theorem pieces_of_not_mem (limit : Nat) (free : separator ∉ text) :
    pieces separator limit text = [text] := by
  induction text with
  | nil => rfl
  | cons c rest inductionHypothesis =>
    obtain ⟨other, restFree⟩ := List.ne_and_not_mem_of_not_mem_cons free
    rw [pieces, if_neg fun here => other here.1.symm, inductionHypothesis restFree]

theorem pieces_append (limit : Nat) (free : separator ∉ before) :
    pieces separator (limit + 2) (before ++ separator :: after) =
      before :: pieces separator (limit + 1) after := by
  induction before with
  | nil =>
    rw [List.nil_append, pieces, if_pos ⟨rfl, Nat.le_add_left 2 limit⟩]
    rfl
  | cons c rest inductionHypothesis =>
    obtain ⟨other, restFree⟩ := List.ne_and_not_mem_of_not_mem_cons free
    rw [List.cons_append, pieces, if_neg fun here => other here.1.symm,
      inductionHypothesis restFree]

/-- There are as many pieces as are allowed if the text has enough separators. -/
theorem length_pieces_eq_iff (count : Nat) (text : List Char) :
    (pieces separator (count + 1) text).length = count + 1 ↔ count ≤ text.count separator := by
  induction count generalizing text with
  | zero => simp [pieces_one]
  | succ count inductionHypothesis =>
    by_cases held : separator ∈ text
    · obtain ⟨before, after, rfl, free⟩ := List.eq_append_cons_of_mem held
      rw [pieces_append count free, List.length_cons, Nat.add_left_inj, inductionHypothesis,
        List.count_append, List.count_cons_self, List.count_eq_zero.mpr free]
      omega
    · rw [pieces_of_not_mem _ held, List.count_eq_zero.mpr held, List.length_singleton]
      omega

/-- The pieces with separators between them are the text, and no piece but the last one holds a
separator. A row of as many pieces as are allowed is told by this. -/
theorem pieces_eq_iff (count : Nat) {text : List Char} {row : List (List Char)}
    (length : row.length = count + 1) :
    pieces separator (count + 1) text = row ↔
      text = [separator].intercalate row ∧ ∀ piece ∈ row.dropLast, separator ∉ piece := by
  induction count generalizing text row with
  | zero =>
    obtain ⟨last, rfl⟩ := List.length_eq_one_iff.mp length
    simp [pieces_one]
  | succ count inductionHypothesis =>
    obtain ⟨first, second, others, rfl⟩ :
        ∃ first second others, row = first :: second :: others := by
      match row, length with
      | first :: second :: others, _ => exact ⟨first, second, others, rfl⟩
    have behind := fun after => @inductionHypothesis after _ (Nat.succ.inj length)
    rw [List.intercalate_cons_cons, List.append_assoc, List.singleton_append,
      List.dropLast_cons_cons, List.forall_mem_cons]
    constructor
    · intro cut
      by_cases held : separator ∈ text
      · obtain ⟨before, after, rfl, free⟩ := List.eq_append_cons_of_mem held
        obtain ⟨rfl, rest⟩ := List.cons.inj ((pieces_append count free).symm.trans cut)
        obtain ⟨rfl, othersFree⟩ := (behind after).mp rest
        exact ⟨rfl, free, othersFree⟩
      · cases (pieces_of_not_mem _ held).symm.trans cut
    · rintro ⟨rfl, free, othersFree⟩
      rw [pieces_append count free, (behind _).mpr ⟨rfl, othersFree⟩]

end Single

end Deskbar.Text
