/-
This file says what stands in the text for a window. The template that gives it has places for what
the groups of its pattern matched, for the class and for the title. They are not filled at once:
first the groups are put in, then the class, then the title, and what has been put in is searched
again for the places that are left. As long as no place turns up that the template does not have,
this makes no difference. A window can be named so that one does.

Of the engine no more is used than that a match puts what its groups matched where a template refers
to them, and leaves the rest of the template as it is.
-/

import Deskbar.Pattern.Compiled
import Deskbar.Proofs.Sorting
import Deskbar.Rewriter

namespace Deskbar

namespace Text

/-! ### Replacing piece by piece -/

variable {target : List Char} (replacement : List Char)

theorem replaceFrom_length_append (skipped rest : List Char) :
    replaceFrom target replacement skipped.length (skipped ++ rest) =
      replaceAll target replacement rest := by
  induction skipped with
  | nil => rfl
  | cons c skipped inductionHypothesis => exact inductionHypothesis

theorem replaceAll_target_append (nonempty : target ≠ []) (rest : List Char) :
    replaceAll target replacement (target ++ rest) =
      replacement ++ replaceAll target replacement rest := by
  obtain ⟨c, others, rfl⟩ := List.exists_cons_of_ne_nil nonempty
  have here : (c :: others).isPrefixOf (c :: (others ++ rest)) = true :=
    List.isPrefixOf_iff_prefix.mpr ⟨rest, rfl⟩
  rw [List.cons_append, replaceAll, replaceFrom, if_pos here]
  exact congrArg _ (replaceFrom_length_append replacement others rest)

/-- A piece is left as it is when no occurrence begins in it. -/
theorem replaceAll_append {piece rest : List Char}
    (clear : ∀ place < piece.length, ¬ target <+: (piece ++ rest).drop place) :
    replaceAll target replacement (piece ++ rest) =
      piece ++ replaceAll target replacement rest := by
  induction piece with
  | nil => rfl
  | cons c piece inductionHypothesis =>
    rw [List.cons_append, replaceAll, replaceFrom, if_neg, List.cons_append]
    · exact congrArg (c :: ·) (inductionHypothesis fun place before =>
        clear (place + 1) (Nat.succ_lt_succ before))
    · exact fun here => clear 0 (Nat.zero_lt_succ _) (List.isPrefixOf_iff_prefix.mp here)

end Text

/-! ### Slots -/

/-- A part of the text for a window: characters that are to stand there as they are, or the place of
the class or of the title. -/
inductive Slot where
  | text (chars : List Char)
  | windowClass
  | title
  deriving DecidableEq

namespace Slot

open Rewriter

/-- What a slot holds for a class and a title. -/
def fill (windowClass title : List Char) : Slot → List Char
  | .text chars => chars
  | .windowClass => windowClass
  | .title => title

theorem fill_of_ne_windowClass {slot : Slot} (other : slot ≠ .windowClass)
    (first second title : List Char) : slot.fill first title = slot.fill second title := by
  cases slot with
  | windowClass => exact absurd rfl other
  | text | title => rfl

theorem fill_of_ne_title {slot : Slot} (other : slot ≠ .title)
    (windowClass first second : List Char) :
    slot.fill windowClass first = slot.fill windowClass second := by
  cases slot with
  | title => exact absurd rfl other
  | text | windowClass => rfl

/-- Whether the text that slots hold has a token nowhere but at one kind of slot. -/
def OnlyAt (slot : Slot) (token : List Char) (holds : Slot → List Char) (slots : List Slot) :
    Prop :=
  ∀ place < (slots.flatMap holds).length, token <+: (slots.flatMap holds).drop place →
    ∃ count < slots.length, slots[count]? = some slot ∧
      ((slots.take count).flatMap holds).length = place

instance (slot : Slot) (token : List Char) (holds : Slot → List Char) (slots : List Slot) :
    Decidable (slot.OnlyAt token holds slots) :=
  inferInstanceAs (Decidable (∀ place < _, _ → ∃ count < _, _ ∧ _))

-- A class can bring the token of the title along.
example : ¬ Slot.title.OnlyAt titleToken.toList (fill titleToken.toList titleToken.toList)
    [.windowClass] := by decide

variable {slot first : Slot} {token : List Char} {holds filled : Slot → List Char}
  {rest slots : List Slot}

/-- Where the first slot has no token, none begins in what it holds. -/
theorem OnlyAt.clear (onlyAt : slot.OnlyAt token holds (first :: rest)) (other : first ≠ slot)
    {place : Nat} (before : place < (holds first).length) :
    ¬ token <+: (holds first ++ rest.flatMap holds).drop place := by
  intro here
  obtain ⟨count, -, found, length⟩ := onlyAt place
    (by rw [List.flatMap_cons, List.length_append]; omega) here
  cases count with
  | zero => exact other (Option.some.inj found)
  | succ count =>
    rw [List.take_succ_cons, List.flatMap_cons, List.length_append] at length
    omega

/-- The slots behind one that is another or holds something have the token at the same slots. -/
theorem OnlyAt.tail (onlyAt : slot.OnlyAt token holds (first :: rest))
    (passed : first = slot → holds first ≠ []) : slot.OnlyAt token holds rest := by
  intro place before here
  obtain ⟨count, -, found, length⟩ := onlyAt ((holds first).length + place)
    (by rw [List.flatMap_cons, List.length_append]; omega)
    (by rw [List.flatMap_cons, List.drop_length_add_append]; exact here)
  cases count with
  | zero =>
    have empty : (holds first).length = 0 := by
      rw [List.take_zero, List.flatMap_nil, List.length_nil] at length
      omega
    exact absurd (List.length_eq_zero_iff.mp empty) (passed (Option.some.inj found))
  | succ count =>
    rw [List.take_succ_cons, List.flatMap_cons, List.length_append] at length
    rw [List.getElem?_cons_succ] at found
    exact ⟨count, (List.getElem?_eq_some_iff.mp found).1, found, Nat.add_left_cancel length⟩

/-- Where a token stands at one kind of slot only, to replace it is to fill those slots. -/
theorem replaceAll_flatMap (nonempty : token ≠ []) (own : holds slot = token)
    (same : ∀ other, other ≠ slot → filled other = holds other)
    (onlyAt : slot.OnlyAt token holds slots) :
    Text.replaceAll token (filled slot) (slots.flatMap holds) = slots.flatMap filled := by
  induction slots with
  | nil => rfl
  | cons first rest inductionHypothesis =>
    have behind := inductionHypothesis (onlyAt.tail fun here => by rw [here, own]; exact nonempty)
    rw [List.flatMap_cons, List.flatMap_cons, ← behind]
    by_cases here : first = slot
    · rw [here, own, Text.replaceAll_target_append _ nonempty]
    · rw [same first here, Text.replaceAll_append _ fun place before => onlyAt.clear here before]

/-- A token begins in no slot but its own if no slot has its first character behind the front, and
none but its own begins with it. -/
theorem onlyAt_of_heads (opening : Char) {others : List Char}
    (tails : ∀ other ∈ slots, opening ∉ (holds other).tail)
    (heads : ∀ other ∈ slots, other ≠ slot → ∀ behind, holds other ≠ [] →
      ¬ opening :: others <+: holds other ++ behind) :
    slot.OnlyAt (opening :: others) holds slots := by
  induction slots with
  | nil => exact fun place before => absurd before (Nat.not_lt_zero place)
  | cons first rest inductionHypothesis =>
    have onlyAt := inductionHypothesis
      (fun other member => tails other (List.mem_cons_of_mem _ member))
      (fun other member => heads other (List.mem_cons_of_mem _ member))
    intro place before here
    rw [List.flatMap_cons] at before here
    rcases Nat.lt_or_ge place (holds first).length with inside | beyond
    · cases place with
      | zero =>
        by_cases same : first = slot
        · exact ⟨0, Nat.zero_lt_succ _, congrArg some same, rfl⟩
        · have nonempty := List.ne_nil_of_length_pos inside
          exact absurd here (heads first List.mem_cons_self same _ nonempty)
      | succ place =>
        -- The first character of the token would stand behind the front of the slot.
        obtain ⟨behind, whole⟩ := here
        rw [List.drop_append_of_le_length (Nat.le_of_lt inside),
          List.drop_eq_getElem_cons inside] at whole
        refine absurd ?_ (tails first List.mem_cons_self)
        rw [(List.cons.inj whole).1, ← List.getElem_tail (by rw [List.length_tail]; omega)]
        exact List.getElem_mem _
    · obtain ⟨count, within, found, length⟩ := onlyAt (place - (holds first).length)
        (by rw [List.length_append] at before; omega)
        (by rwa [List.drop_append, List.drop_of_length_le beyond, List.nil_append] at here)
      refine ⟨count + 1, Nat.succ_lt_succ within, found, ?_⟩
      rw [List.take_succ_cons, List.flatMap_cons, List.length_append, length]
      omega

end Slot

/-- A piece that lacks the first character of a token does not begin with it. -/
theorem not_prefix_append_of_not_mem {opening : Char} {others piece : List Char}
    (missing : opening ∉ piece) (nonempty : piece ≠ []) (behind : List Char) :
    ¬ opening :: others <+: piece ++ behind := by
  obtain ⟨first, rest, rfl⟩ := List.exists_cons_of_ne_nil nonempty
  intro here
  exact missing (List.mem_cons.mpr (Or.inl (List.cons_prefix_cons.mp here).1))

namespace Rewriter

open Pattern

/-! ### The slots of a template -/

/-- The pieces of a template that write a token. -/
def tokenParts (token : String) : List TemplatePart := token.toList.map TemplatePart.literal

/-- The slots that pieces of a template make, of which the first `skipped` ones belong to a slot
that has been made. What is no place of the class or of the title becomes text at once. -/
def slotsFrom (fillPart : TemplatePart → List Char) : Nat → List TemplatePart → List Slot
  | _, [] => []
  | skipped + 1, _ :: rest => slotsFrom fillPart skipped rest
  | 0, part :: rest =>
    if (tokenParts classToken).isPrefixOf (part :: rest) then
      .windowClass :: slotsFrom fillPart (classToken.length - 1) rest
    else if (tokenParts titleToken).isPrefixOf (part :: rest) then
      .title :: slotsFrom fillPart (titleToken.length - 1) rest
    else .text (fillPart part) :: slotsFrom fillPart 0 rest

/-- The slots of the text for an input. They are those of the template that gives the text, and
nothing that a window has brought along makes one. A fallback has no references. -/
def slots (rewriter : Rewriter) (input : String) : List Slot :=
  match rewriter.rules.findSome? fun rule => (rule.pattern.captures? input).map fun captures =>
      slotsFrom captures.groups.fillPart 0 (templateParts rule.template) with
  | some slots => slots
  | none => slotsFrom Groups.empty.fillPart 0 (tokenParts rewriter.fallback)

/-- Whether every match of a rule makes of a template what its groups say: the references give way
to what the groups matched, and all else stays. -/
def FillsTemplates (rewriter : Rewriter) : Prop :=
  ∀ rule ∈ rewriter.rules, ∀ input captures, rule.pattern.captures? input = some captures →
    ∀ template, captures.expand template = captures.groups.expand template

theorem flatMap_tokenParts (groups : Groups) (token : String) :
    (tokenParts token).flatMap groups.fillPart = token.toList := by
  rw [tokenParts, List.flatMap_map]
  exact List.flatMap_singleton' _

/-- Pieces that begin with a token stand for the token and for what the pieces behind it do. -/
theorem flatMap_of_tokenParts (groups : Groups) {token : String} {part : TemplatePart}
    {rest : List TemplatePart} (nonempty : 0 < token.length)
    (here : (tokenParts token).isPrefixOf (part :: rest) = true) :
    (part :: rest).flatMap groups.fillPart =
      token.toList ++ (rest.drop (token.length - 1)).flatMap groups.fillPart := by
  obtain ⟨behind, whole⟩ := List.isPrefixOf_iff_prefix.mp here
  have length : (tokenParts token).length = token.length - 1 + 1 := by
    rw [tokenParts, List.length_map, String.length_toList]
    omega
  have dropped : rest.drop (token.length - 1) = behind := by
    rw [← List.drop_succ_cons (a := part), ← length, ← whole, List.drop_left]
  rw [dropped, ← whole, List.flatMap_append, flatMap_tokenParts]

/-- Slots that hold the tokens of their places hold what the pieces stand for. -/
theorem flatMap_slotsFrom (groups : Groups) (skipped : Nat) (parts : List TemplatePart) :
    (slotsFrom groups.fillPart skipped parts).flatMap
        (Slot.fill classToken.toList titleToken.toList) =
      (parts.drop skipped).flatMap groups.fillPart := by
  induction parts generalizing skipped with
  | nil => rw [slotsFrom, List.drop_nil, List.flatMap_nil, List.flatMap_nil]
  | cons part rest inductionHypothesis =>
    cases skipped with
    | succ skipped => exact inductionHypothesis skipped
    | zero =>
      rw [slotsFrom, List.drop_zero]
      split
      · next here =>
        rw [List.flatMap_cons, inductionHypothesis,
          flatMap_of_tokenParts groups (by decide) here, Slot.fill]
      · split
        · next here =>
          rw [List.flatMap_cons, inductionHypothesis,
            flatMap_of_tokenParts groups (by decide) here, Slot.fill]
        · rw [List.flatMap_cons, inductionHypothesis, List.drop_zero, List.flatMap_cons, Slot.fill]

/-- What an input resolves to is its slots with the tokens of the places still in them. -/
theorem text_resolve {rewriter : Rewriter} (fills : rewriter.FillsTemplates) (input : String) :
    (rewriter.resolve input).text.toList =
      (rewriter.slots input).flatMap (Slot.fill classToken.toList titleToken.toList) := by
  have chosen : (rewriter.rules.findSome? fun rule => rule.apply? input) =
      (rewriter.rules.findSome? fun rule => (rule.pattern.captures? input).map fun captures =>
        slotsFrom captures.groups.fillPart 0 (templateParts rule.template)).map fun slots =>
          String.ofList (slots.flatMap (Slot.fill classToken.toList titleToken.toList)) := by
    rw [List.map_findSome?, ← List.head?_filterMap, ← List.head?_filterMap]
    refine congrArg List.head? (List.filterMap_congr fun rule member => ?_)
    rw [Function.comp_apply, Option.map_map, Rule.apply?]
    refine Option.map_congr fun captures found => ?_
    rw [Function.comp_apply, flatMap_slotsFrom, fills rule member input captures found,
      Groups.expand, List.drop_zero]
  rw [resolve, chosen, slots]
  cases rewriter.rules.findSome? _ with
  | some slots => exact String.toList_ofList
  | none => rw [Option.map_none, flatMap_slotsFrom, List.drop_zero, flatMap_tokenParts]

/-! ### Filling the slots -/

section Plain

variable {slots : List Slot} (plain : ∀ slot ∈ slots, '\x7b' ∉ slot.fill [] [])

include plain

/-- Where no text has an opening brace, the token of the class stands at its places only. -/
theorem onlyAt_classToken : Slot.windowClass.OnlyAt classToken.toList
    (Slot.fill classToken.toList titleToken.toList) slots := by
  refine Slot.onlyAt_of_heads '\x7b' (fun other member => ?_)
    fun other member another behind nonempty => ?_
  · cases other with
    | text chars => exact fun inTail => plain _ member (List.mem_of_mem_tail inTail)
    | windowClass | title => decide
  · cases other with
    | text chars => exact not_prefix_append_of_not_mem (plain _ member) nonempty behind
    | windowClass => exact absurd rfl another
    | title =>
      intro here
      exact absurd (List.cons_prefix_cons.mp (List.cons_prefix_cons.mp here).2).1 (by decide)

/-- So does the token of the title after a class without an opening brace has been put in. -/
theorem onlyAt_titleToken {windowClass : List Char} (plainClass : '\x7b' ∉ windowClass) :
    Slot.title.OnlyAt titleToken.toList (Slot.fill windowClass titleToken.toList) slots := by
  refine Slot.onlyAt_of_heads '\x7b' (fun other member => ?_)
    fun other member another behind nonempty => ?_
  · cases other with
    | text chars => exact fun inTail => plain _ member (List.mem_of_mem_tail inTail)
    | windowClass => exact fun inTail => plainClass (List.mem_of_mem_tail inTail)
    | title => exact (by decide : '\x7b' ∉ titleToken.toList.tail)
  · cases other with
    | text chars => exact not_prefix_append_of_not_mem (plain _ member) nonempty behind
    | windowClass => exact not_prefix_append_of_not_mem plainClass nonempty behind
    | title => exact absurd rfl another

end Plain

/-- If matches make of templates what their groups say, the text for a window has all slots filled
at once, as long as the token of the class is in what the input resolves to, and that of the title
in what comes of putting the class in, only where the template has them. Nothing that the window has
brought along is then taken for a place. -/
theorem windowText_eq_fill {rewriter : Rewriter} (fills : rewriter.FillsTemplates)
    (windowClass title : String)
    (classOnly : Slot.windowClass.OnlyAt classToken.toList
      (Slot.fill classToken.toList titleToken.toList)
      (rewriter.slots (rewriter.windowInput windowClass title)))
    (titleOnly : Slot.title.OnlyAt titleToken.toList
      (Slot.fill windowClass.toList titleToken.toList)
      (rewriter.slots (rewriter.windowInput windowClass title))) :
    rewriter.windowText windowClass title =
      String.ofList ((rewriter.slots (rewriter.windowInput windowClass title)).flatMap
        (Slot.fill windowClass.toList title.toList)) := by
  -- Each replacement fills one kind of slot, and the other kinds hold what they held before.
  have withClass := Slot.replaceAll_flatMap (by decide : classToken.toList ≠ []) rfl
    (fun _ other => Slot.fill_of_ne_windowClass other windowClass.toList _ _) classOnly
  have withTitle := Slot.replaceAll_flatMap (by decide : titleToken.toList ≠ []) rfl
    (fun _ other => Slot.fill_of_ne_title other _ title.toList _) titleOnly
  rw [windowText, text_resolve fills]
  exact congrArg String.ofList ((congrArg _ withClass).trans withTitle)

/-- Every match of the engine that runs makes of templates what its groups say. -/
theorem fillsTemplates_ofRules (declared : List RewriteRule) (fallback : String)
    (priority : String → Int) : (ofRules declared fallback priority).FillsTemplates := by
  intro rule member input captures found template
  obtain ⟨written, -, ready⟩ := List.mem_filterMap.mp ((sortBy_perm _ _).mem_iff.mp member)
  obtain ⟨pattern, compiled, rfl⟩ := Option.map_eq_some_iff.mp ready
  obtain ⟨program, -, rfl⟩ := Option.map_eq_some_iff.mp compiled
  obtain ⟨marks, -, rfl⟩ := Option.map_eq_some_iff.mp found
  rfl

/-- A bar that shows windows as the name between the angle brackets and their title. -/
def titledRewriter : Rewriter :=
  ofRules [⟨"<(.*)>", "$1: \x7btitle\x7d", none⟩] "?" priorityByParts

/-- A title that looks like the place of the class is shown as it is. -/
theorem windowText_eq_fill_titledRewriter :
    titledRewriter.windowText "kitty" "\x7bclass\x7d" = "kitty: \x7bclass\x7d" := by
  have plain : ∀ slot ∈ titledRewriter.slots (titledRewriter.windowInput "kitty" "\x7bclass\x7d"),
      '\x7b' ∉ slot.fill [] [] := by decide +kernel
  have fills : titledRewriter.FillsTemplates := fillsTemplates_ofRules _ _ _
  rw [windowText_eq_fill fills "kitty" "\x7bclass\x7d" (onlyAt_classToken plain)
    (onlyAt_titleToken plain (by decide))]
  decide +kernel

/-- A window can be named so that its class is taken for the place of the title. -/
theorem not_windowText_eq_fill :
    ¬ ∀ rewriter : Rewriter, rewriter.FillsTemplates → ∀ windowClass title : String,
      rewriter.windowText windowClass title =
        String.ofList ((rewriter.slots (rewriter.windowInput windowClass title)).flatMap
          (Slot.fill windowClass.toList title.toList)) :=
  fun always => absurd (always (ofRules [] "\x7bclass\x7d" priorityByParts)
    (fillsTemplates_ofRules _ _ _) "\x7btitle\x7d" "x") (by decide +kernel)

end Rewriter

end Deskbar
