/-
This file proves what a bar gets to read. However many rows of buttons are offered, and whatever
writer each of them is offered to, the text that comes out is that of the rows which a writer was
ready to take, one line for each, without those that repeat the row before them. A row is refused
only if it is new and its writer takes nothing, and it then counts as not offered at all. Every line
holds the whole row: it ends where its text ends, and the row can be recovered from it.
-/

import Mathlib.Data.List.Destutter
import Deskbar.Feed
import Deskbar.Proofs.CompactForm

namespace Deskbar

/-! ### The line of a row -/

section Lines

open Json

theorem Button.composed_documentOf {Fits : Int → Prop} {buttons : List Button}
    (ids : ∀ button ∈ buttons, ∀ id ∈ button.id, Fits id)
    (windows : ∀ button ∈ buttons, Fits button.windows) (depth : Nat) :
    Composed Fits (depth + 3) (documentOf buttons) := by
  refine .array fun element member => ?_
  obtain ⟨button, among, rfl⟩ := List.mem_map.mp member
  have activeWindow : Composed Fits (depth + 1) (Json.text? button.activeWindow) := by
    cases button.activeWindow with
    | none => exact .null
    | some text => exact .string text
  have classes : Composed Fits (depth + 1) (Json.texts button.classes) := by
    refine .array fun element member => ?_
    obtain ⟨text, -, rfl⟩ := List.mem_map.mp member
    exact .string text
  refine .object (by simp) ?_
  simp only [List.forall_mem_cons]
  refine ⟨?id, .string _, .string _, .string _, .string _, .whole (windows button among),
    activeWindow, classes, .string _, List.forall_mem_nil _⟩
  cases found : button.id with
  | none => exact .null
  | some id => exact .whole (ids button among id found)

/-- Whether the numbers of a button are such as the compositor counts in. -/
structure Button.Fits (button : Button) : Prop where
  id : ∀ id ∈ button.id, -2 ^ 63 ≤ id ∧ id < 2 ^ 63
  windows : button.windows < 2 ^ 32

theorem Button.readsBack_documentOf {buttons : List Button}
    (fitting : ∀ button ∈ buttons, button.Fits) (depth : Nat) :
    ReadsBack (depth + 3) (documentOf buttons) := by
  refine (composed_documentOf (fun button among id held => ?_) (fun button among => ?_)
    depth).readsBack
  · obtain ⟨least, greatest⟩ := (fitting button among).id id held
    exact ⟨least, by omega⟩
  · have bounded := (fitting button among).windows
    exact ⟨by omega, by omega⟩

end Lines

namespace Feed

/-- A line ends where its text ends and nowhere before. -/
theorem exists_line (buttons : List Button) :
    ∃ body, (line buttons).toList = body ++ ['\n'] ∧ '\n' ∉ body := by
  have composed : Json.Composed (fun _ => True) 3 (Button.documentOf buttons) :=
    Button.composed_documentOf (fun _ _ _ _ => trivial) (fun _ _ => trivial) 0
  exact ⟨Json.compactChars (Button.documentOf buttons), by simp [line, Json.compact],
    composed.takesOneLine⟩

/-! ### Rows -/

/-- The rows that are offered to writers which take them. -/
def taken (calls : List (Bool × List Button)) : List (List Button) :=
  (calls.filter Prod.fst).map Prod.snd

/-- The rows that come out, which are those that are taken without repetitions. -/
def rows (calls : List (Bool × List Button)) : List (List Button) :=
  (taken calls).destutter (· ≠ ·)

variable {feed : Feed} {calls : List (Bool × List Button)}

theorem offerAll_cons (feed : Feed) (call : Bool × List Button)
    (calls : List (Bool × List Button)) :
    feed.offerAll (call :: calls) =
      ((feed.offer call.1 call.2).1 :: ((feed.offer call.1 call.2).2.offerAll calls).1,
        ((feed.offer call.1 call.2).2.offerAll calls).2) := rfl

theorem offerAll_append (feed : Feed) (before after : List (Bool × List Button)) :
    feed.offerAll (before ++ after) =
      ((feed.offerAll before).1 ++ ((feed.offerAll before).2.offerAll after).1,
        ((feed.offerAll before).2.offerAll after).2) := by
  induction before generalizing feed with
  | nil => rfl
  | cons call before inductionHypothesis =>
    rw [List.cons_append, offerAll_cons, inductionHypothesis, offerAll_cons, List.cons_append]

theorem length_offerAll (feed : Feed) (calls : List (Bool × List Button)) :
    (feed.offerAll calls).1.length = calls.length := by
  induction calls generalizing feed with
  | nil => rfl
  | cons call calls inductionHypothesis =>
    rw [offerAll_cons, List.length_cons, inductionHypothesis, List.length_cons]

/-- What a feed writes are the rows behind the one that it wrote last. -/
theorem exists_rows (feed : Feed) (calls : List (Bool × List Button)) :
    ∃ written, (feed.last.toList ++ taken calls).destutter (· ≠ ·) = feed.last.toList ++ written ∧
      (feed.offerAll calls).2.last = (feed.last.toList ++ written).getLast? ∧
      String.join ((feed.offerAll calls).1.map Outcome.text) = String.join (written.map line) := by
  induction calls generalizing feed with
  | nil =>
    refine ⟨[], ?_, ?_, rfl⟩ <;> obtain ⟨none | last⟩ := feed <;> rfl
  | cons call calls inductionHypothesis =>
    obtain ⟨accepts, buttons⟩ := call
    rw [offerAll_cons, List.map_cons, String.join_cons]
    by_cases repeated : feed.last = some buttons
    · -- The row is the last one again, so it makes no difference that it is there.
      have same : feed.offer accepts buttons = (.unchanged, feed) := if_pos repeated
      obtain ⟨written, shown, last, text⟩ := inductionHypothesis feed
      rw [same]
      refine ⟨written, ?_, last, by rw [text]; rfl⟩
      rw [← shown, repeated]
      cases accepts with
      | false => rfl
      | true => exact List.destutter'_cons_neg _ (not_not_intro rfl)
    · cases accepts with
      | false =>
        have same : feed.offer false buttons = (.refused, feed) := if_neg repeated
        obtain ⟨written, shown, last, text⟩ := inductionHypothesis feed
        rw [same]
        exact ⟨written, shown, last, by rw [text]; rfl⟩
      | true =>
        have next : feed.offer true buttons = (.written (line buttons), ⟨some buttons⟩) :=
          if_neg repeated
        obtain ⟨written, shown, last, text⟩ := inductionHypothesis ⟨some buttons⟩
        rw [next]
        have split : (feed.last.toList ++ taken ((true, buttons) :: calls)).destutter (· ≠ ·) =
            feed.last.toList ++ (buttons :: taken calls).destutter (· ≠ ·) := by
          obtain ⟨none | previous⟩ := feed
          · rfl
          · exact List.destutter'_cons_pos _ fun same => repeated (congrArg some same)
        refine ⟨buttons :: written, ?_, ?_, ?_⟩
        · rw [split]
          exact congrArg _ shown
        · rw [last]
          obtain ⟨none | previous⟩ := feed <;> rfl
        · rw [text, List.map_cons, String.join_cons]
          rfl

/-- What a new feed wrote last. -/
theorem last_offerAll (calls : List (Bool × List Button)) :
    (offerAll {} calls).2.last = (rows calls).getLast? := by
  obtain ⟨written, shown, last, -⟩ := exists_rows {} calls
  rw [last, ← shown]
  rfl

theorem join_offerAll (calls : List (Bool × List Button)) :
    String.join ((offerAll {} calls).1.map Outcome.text) = String.join ((rows calls).map line) := by
  obtain ⟨written, shown, -, text⟩ := exists_rows {} calls
  have same : rows calls = written := shown
  rw [text, same]

theorem offer_eq_refused_iff {accepts : Bool} {buttons : List Button} :
    (feed.offer accepts buttons).1 = .refused ↔ accepts = false ∧ feed.last ≠ some buttons := by
  unfold offer
  split
  case isTrue repeated => simp [repeated]
  case isFalse new => cases accepts <;> simp [new]

/-- What becomes of a row depends on the rows before it only. -/
theorem getElem?_offerAll {place : Nat} {call : Bool × List Button}
    (held : calls[place]? = some call) :
    (feed.offerAll calls).1[place]? =
      some ((feed.offerAll (calls.take place)).2.offer call.1 call.2).1 := by
  obtain ⟨inside, there⟩ := List.getElem?_eq_some_iff.mp held
  have split : calls = calls.take place ++ call :: calls.drop (place + 1) := by
    rw [← there, ← List.drop_eq_getElem_cons inside, List.take_append_drop]
  have length : ((feed.offerAll (calls.take place)).1).length = place := by
    rw [length_offerAll, List.length_take_of_le inside.le]
  conv_lhs => rw [split, offerAll_append, offerAll_cons]
  rw [List.getElem?_append_right length.le, length, Nat.sub_self]
  rfl

/-! ### What comes out -/

/-- For all rows that are offered to a new feed, each with a writer that takes all it is given or
nothing: the text that comes out is that of the rows, a row is refused exactly if its writer takes
nothing and it is not the row that came out last, and every line ends at its only line end and is
read back as its row. -/
theorem offerAll_writes (calls : List (Bool × List Button)) :
    String.join ((offerAll {} calls).1.map Outcome.text) = String.join ((rows calls).map line) ∧
      (∀ place call, calls[place]? = some call →
        ((offerAll {} calls).1[place]? = some .refused ↔
          call.1 = false ∧ (rows (calls.take place)).getLast? ≠ some call.2)) ∧
      (∀ buttons, ∃ body, (line buttons).toList = body ++ ['\n'] ∧ '\n' ∉ body) ∧
      ∀ buttons : List Button, (∀ button ∈ buttons, button.Fits) →
        Json.read? (line buttons) = some (Button.documentOf buttons) := by
  refine ⟨join_offerAll calls, fun place call held => ?_, exists_line, fun buttons fitting => ?_⟩
  · rw [getElem?_offerAll held, Option.some.injEq, offer_eq_refused_iff, last_offerAll]
  · exact Json.read?_compact (Button.readsBack_documentOf fitting 124)

/-- A button with a title of several lines, once refused and then tried again. -/
theorem offerAll_writes_multiline :
    let buttons : List Button := [{
      id := some 1, name := "1", output := "DP-1", label := "1", tooltip := "a\n\t\"b\"",
      windows := 1, activeWindow := some "a\nb", classes := ["active"],
      command := "dispatch workspace 1" }]
    (offerAll {} [(false, buttons), (true, buttons), (false, buttons)]).1[0]? = some .refused ∧
      (offerAll {} [(false, buttons), (true, buttons), (false, buttons)]).1[2]? ≠ some .refused ∧
      Json.read? (line buttons) = some (Button.documentOf buttons) := by
  intro buttons
  obtain ⟨-, refused, -, readBack⟩ :=
    offerAll_writes [(false, buttons), (true, buttons), (false, buttons)]
  refine ⟨(refused 0 _ rfl).mpr ⟨rfl, Option.some_ne_none _ ∘ Eq.symm⟩, fun again => ?_,
    readBack buttons ?_⟩
  · exact ((refused 2 _ rfl).mp again).2 rfl
  · simp only [buttons, List.forall_mem_singleton]
    exact ⟨by simp, by decide⟩

end Feed

end Deskbar
