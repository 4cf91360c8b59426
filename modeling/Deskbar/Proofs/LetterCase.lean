/-
This file says how far the letter case of patterns matters. Patterns match without regard to it: a
literal text in other letter case is the same pattern but for the text that it was written as. That
text is read twice more, for the priority of a rule and for whether rules are about titles, and
there case counts. Rules in other letter case do the same as long as both readings find the same
words in them.

That patterns match without regard to case is what the engine is asked for. It is said here of
literal text only, and proved of the engine that runs.
-/

import Mathlib
import Deskbar.Pattern.Compiled
import Deskbar.Proofs.Sorting
import Deskbar.Rewriter

namespace Deskbar

/-!
### Case variants of letters

A capital has the code point `65 + offset`, and its small letter `97 + offset`.
-/

namespace Unicode

/-- The first pair with the form of a small letter is that of the letter and its capital. -/
theorem find?_foldPairs : ∀ offset < 26, foldPairs.find? (fun pair => pair.2 == 97 + offset) =
    some (65 + offset, 97 + offset) := by decide +kernel

/-- Capitals have no form but their small letters, are nothing's form, and small letters have no
other form. -/
theorem foldPairs_letters : ∀ pair ∈ foldPairs,
    (65 ≤ pair.1 → pair.1 < 91 → pair.2 = pair.1 + 32) ∧ (pair.1 < 97 ∨ 123 ≤ pair.1) ∧
      (pair.2 < 65 ∨ 91 ≤ pair.2) := by decide +kernel

theorem insertCode_letter : ∀ offset < 26,
    ((CharSet.ofCodes (65 + offset) (65 + offset)).insertCode (65 + offset)).insertCode
        (97 + offset) =
      ((CharSet.ofCodes (97 + offset) (97 + offset)).insertCode (65 + offset)).insertCode
        (97 + offset) := by decide +kernel

/-- Two states become one at the first element that is looked at, and stay so. -/
theorem foldl_congr_of_find? {State Element : Type} {test : Element → Bool}
    {change : State → Element → State} {list : List Element} {found : Element}
    (first : list.find? test = some found) {state other : State}
    (same : change state found = change other found) :
    list.foldl (fun state element => if test element then change state element else state) state =
      list.foldl (fun state element => if test element then change state element else state)
        other := by
  induction list with
  | nil => cases first
  | cons head rest inductionHypothesis =>
    rw [List.foldl_cons, List.foldl_cons]
    cases passes : test head with
    | true =>
      rw [List.find?_cons_of_pos passes] at first
      obtain rfl := Option.some.inj first
      rw [if_pos rfl, if_pos rfl, same]
    | false =>
      rw [List.find?_cons_of_neg (by rw [passes]; exact Bool.false_ne_true)] at first
      rw [if_neg Bool.false_ne_true, if_neg Bool.false_ne_true]
      exact inductionHypothesis first

theorem containsCode_ofCodes {code : Nat} (valid : code < CharSet.lastCode) (other : Nat) :
    (CharSet.ofCodes code code).containsCode other = (other == code) := by
  rw [CharSet.ofCodes, if_pos valid, CharSet.containsCode]
  simp only [CharSet.isInside]
  grind

/-- Case variants are added by the forms that the characters of a set have or are. -/
theorem withCaseVariants_eq {set : CharSet} {hasForm : Nat → Bool}
    (forms : ∀ form, ((foldPairs.filter fun pair =>
      set.containsCode pair.1 || set.containsCode pair.2).map Prod.snd).contains form =
        hasForm form) :
    withCaseVariants set = foldPairs.foldl (fun closed pair =>
      if hasForm pair.2 then (closed.insertCode pair.1).insertCode pair.2 else closed) set := by
  rw [withCaseVariants]
  refine List.foldl_ext _ _ set fun closed pair _ => ?_
  rw [← forms pair.2]

/-- The only form that a letter of either case has or is, is the small letter. -/
theorem contains_forms {offset code : Nat} (letter : offset < 26)
    (either : code = 65 + offset ∨ code = 97 + offset) (form : Nat) :
    ((foldPairs.filter fun pair => (CharSet.ofCodes code code).containsCode pair.1 ||
        (CharSet.ofCodes code code).containsCode pair.2).map Prod.snd).contains form =
      (form == 97 + offset) := by
  have valid : code < CharSet.lastCode := by rw [CharSet.lastCode]; omega
  simp only [containsCode_ofCodes valid]
  rw [Bool.eq_iff_iff, List.contains_iff_mem, List.mem_map, beq_iff_eq]
  constructor
  · rintro ⟨pair, member, rfl⟩
    obtain ⟨listed, touched⟩ := List.mem_filter.mp member
    obtain ⟨capital, small, form⟩ := foldPairs_letters pair listed
    simp only [Bool.or_eq_true, beq_iff_eq] at touched
    omega
  · rintro rfl
    refine ⟨(65 + offset, 97 + offset), List.mem_filter.mpr
      ⟨List.mem_of_find?_eq_some (find?_foldPairs offset letter), ?_⟩, rfl⟩
    simp only [Bool.or_eq_true, beq_iff_eq]
    omega

/-- A letter has the same case variants as its capital. -/
theorem withCaseVariants_letter {offset : Nat} (letter : offset < 26) :
    withCaseVariants (CharSet.ofCodes (97 + offset) (97 + offset)) =
      withCaseVariants (CharSet.ofCodes (65 + offset) (65 + offset)) := by
  rw [withCaseVariants_eq (contains_forms letter (Or.inr rfl)),
    withCaseVariants_eq (contains_forms letter (Or.inl rfl))]
  -- Both walks pass by all pairs before that of the letter, which brings in the two characters.
  exact foldl_congr_of_find? (find?_foldPairs offset letter) (insertCode_letter offset letter).symm

/-- A capital lies 32 code points before its small letter. -/
theorem toNat_toLower {c : Char} (capital : c.isUpper = true) :
    ∃ offset < 26, c.toNat = 65 + offset ∧ c.toLower.toNat = 97 + offset := by
  have bounds : 65 ≤ c.toNat ∧ c.toNat ≤ 90 := by
    simpa [Char.isUpper, UInt32.le_iff_toNat_le] using capital
  have valid : (c.toNat + 32).isValidChar := Or.inl (by omega)
  refine ⟨c.toNat - 65, by omega, by omega, ?_⟩
  rw [Char.toLower_eq_of_isUpper capital, Char.toNat_ofNat, if_pos valid]
  omega

theorem withCaseVariants_toLower (c : Char) :
    withCaseVariants (CharSet.single c.toLower) = withCaseVariants (CharSet.single c) := by
  rw [CharSet.single, CharSet.range, CharSet.single, CharSet.range]
  by_cases capital : c.isUpper = true
  · obtain ⟨offset, letter, own, small⟩ := toNat_toLower capital
    rw [own, small]
    exact withCaseVariants_letter letter
  · rw [Char.toLower_eq_of_not_isUpper capital]

end Unicode

/-! ### Literal patterns -/

namespace Pattern

/-- Whether a character of a pattern is a plain one that stands for itself. -/
def isLiteralChar (c : Char) : Bool := c.isAlphanum || c = ' ' || c = '<' || c = '>'

theorem isLiteralChar_toLower (c : Char) : isLiteralChar c.toLower = isLiteralChar c := by
  by_cases capital : c.isUpper = true
  · have letter : c.isAlpha = true := Bool.or_eq_true_iff.mpr (Or.inl capital)
    simp only [isLiteralChar, Char.isAlphanum, Char.isAlpha_toLower_eq_isAlpha, letter,
      Bool.true_or]
  · rw [Char.toLower_eq_of_not_isUpper capital]

variable {reader : Reader} {c : Char} {source other : String}

theorem readPart_literal (literal : isLiteralChar c = true) (rest : List Char) :
    readPart reader c rest = some (reader.addLiteral c, rest) := by
  unfold readPart
  split <;> first | exact absurd literal (by decide) | rfl

theorem skip_of_not_verbose {flags : Flags} (plain : flags.verbose = false) (text : List Char) :
    flags.skip text = text := by
  rw [Flags.skip, if_neg (by rw [plain]; exact Bool.false_ne_true)]

/-- Literal characters become one part each. -/
theorem readParts_literal {chars : List Char} (literal : chars.all isLiteralChar = true)
    (plain : reader.flags.verbose = false) {fuel : Nat} (enough : chars.length < fuel) :
    readParts fuel reader chars =
      if reader.groups.isEmpty then some (chars.foldl Reader.addLiteral reader) else none := by
  obtain ⟨fuel, rfl⟩ := Nat.exists_eq_add_one_of_ne_zero (Nat.ne_zero_of_lt enough)
  induction chars generalizing reader fuel with
  | nil =>
    rw [readParts, skip_of_not_verbose plain]
    rfl
  | cons c rest inductionHypothesis =>
    obtain ⟨fuel, rfl⟩ := Nat.exists_eq_add_one_of_ne_zero
      (Nat.ne_zero_of_lt (Nat.lt_of_succ_lt_succ enough))
    rw [readParts, skip_of_not_verbose plain]
    dsimp only
    obtain ⟨first, behind⟩ := Bool.and_eq_true_iff.mp literal
    rw [readPart_literal first]
    -- A literal leaves the flags and the open groups of the reader as they are.
    exact @inductionHypothesis (reader.addLiteral c) behind plain fuel
      (Nat.lt_of_succ_lt_succ enough)

/-- Without regard to case, a letter in either case adds the same part. -/
theorem foldl_addLiteral (ignoring : reader.flags.ignoreCase = true)
    (unicode : reader.flags.unicode = true) {chars others : List Char}
    (letters : others.map Char.toLower = chars.map Char.toLower) :
    others.foldl Reader.addLiteral reader = chars.foldl Reader.addLiteral reader := by
  induction chars generalizing reader others with
  | nil => rw [List.map_eq_nil_iff.mp letters]
  | cons c rest inductionHypothesis =>
    obtain ⟨d, behind, rfl, same, restSame⟩ := List.map_eq_cons_iff.mp letters
    have added : reader.addLiteral d = reader.addLiteral c := by
      rw [Reader.addLiteral, Flags.closeCase, if_pos ignoring, if_pos unicode,
        ← Unicode.withCaseVariants_toLower, same, Unicode.withCaseVariants_toLower,
        Reader.addLiteral, Flags.closeCase, if_pos ignoring, if_pos unicode]
    rw [List.foldl_cons, List.foldl_cons, added]
    exact @inductionHypothesis (reader.addLiteral c) ignoring unicode _ restSame

/-- A literal pattern in other letter case is read as the same pattern. -/
theorem read?_recased (literal : source.toList.all isLiteralChar = true)
    (letters : other.toList.map Char.toLower = source.toList.map Char.toLower) :
    read? other = read? source := by
  have blind : isLiteralChar ∘ Char.toLower = isLiteralChar := funext isLiteralChar_toLower
  have otherLiteral : other.toList.all isLiteralChar = true := by
    rw [← blind, ← List.all_map, letters, List.all_map, blind]
    exact literal
  rw [read?, read?, readParts_literal literal rfl (Nat.lt_succ_self _),
    readParts_literal otherLiteral rfl (Nat.lt_succ_self _), foldl_addLiteral rfl rfl letters]

/-! ### Engines that ignore case -/

/-- Whether an engine reads literal text without regard to case: written in other letter case it
becomes a pattern that matches the same, if it becomes one. A pattern knows as what text it was
written. -/
structure Engine.IgnoresCase [Engine] : Prop where
  source : ∀ {text : String} {pattern : Pattern}, Engine.compile? text = some pattern →
    pattern.source = text
  recased : ∀ {text other : String}, text.toList.all isLiteralChar = true →
    other.toList.map Char.toLower = text.toList.map Char.toLower →
    (Engine.compile? other).map captures? = (Engine.compile? text).map captures?

/-- The engine that runs ignores case. -/
theorem ignoresCase_compiled : Engine.IgnoresCase where
  source compiled := by
    obtain ⟨program, -, rfl⟩ := Option.map_eq_some_iff.mp compiled
    rfl
  recased {text other} literal letters := by
    have same : Compiled.ofText? other = Compiled.ofText? text := by
      rw [Compiled.ofText?, Compiled.ofText?, read?_recased literal letters]
    have matching : ∀ text : String,
        (Engine.compile? text).map captures? = (Compiled.ofText? text).map Compiled.captures? :=
      fun _ => Option.map_map ..
    rw [matching, matching, same]

end Pattern

/-! ### Rules in other letter case -/

namespace RewriteRule

/-- Whether two rules have patterns of literal text that differ in letter case only, and agree in
all else. -/
structure Recased (rule other : RewriteRule) : Prop where
  literal : rule.pattern.toList.all Pattern.isLiteralChar = true
  letters : other.pattern.toList.map Char.toLower = rule.pattern.toList.map Char.toLower
  template : other.template = rule.template
  priority : other.priority = rule.priority

/-- Whether the same words for parts of a window are found in the patterns of two rules. The word
for the class is looked for only where a rule has no priority of its own. -/
structure SameWords (rule other : RewriteRule) : Prop where
  title : Text.occurs "title".toList other.pattern.toList =
    Text.occurs "title".toList rule.pattern.toList
  windowClass : rule.priority = none → Text.occurs "class".toList other.pattern.toList =
    Text.occurs "class".toList rule.pattern.toList

end RewriteRule

namespace Rewriter

/-- A rule whose pattern says no more than what it matches and, in place of how it was written,
whether it is about titles. -/
def Rule.forget (rule : Rule) : Rule :=
  { rule with pattern := {
      source := if Text.occurs "title".toList rule.pattern.source.toList then "title" else ""
      occursIn := fun _ => false
      captures? := rule.pattern.captures? } }

/-- A rewriter whose rules have forgotten how their patterns were written. -/
def forget (rewriter : Rewriter) : Rewriter :=
  { rewriter with rules := rewriter.rules.map Rule.forget }

theorem Rule.occurs_forget (rule : Rule) :
    Text.occurs "title".toList rule.forget.pattern.source.toList =
      Text.occurs "title".toList rule.pattern.source.toList := by
  rw [forget]
  dsimp only
  split
  · next about => exact about.symm
  · next notAbout => exact (Bool.eq_false_iff.mpr notAbout).symm

theorem readsTitle_forget (rewriter : Rewriter) :
    rewriter.forget.readsTitle = rewriter.readsTitle := by
  rw [readsTitle, forget, List.any_map]
  exact congrArg (List.any _) (funext Rule.occurs_forget)

/-- How the patterns of rules were written matters for nothing but for whether they are about
titles. -/
theorem windowText_forget (rewriter : Rewriter) (windowClass title : String) :
    rewriter.forget.windowText windowClass title = rewriter.windowText windowClass title := by
  have resolved : ∀ input, rewriter.forget.resolve input = rewriter.resolve input := by
    intro input
    rw [resolve, forget, List.findSome?_map]
    rfl
  rw [windowText, windowInput, readsTitle_forget, resolved]
  rfl

/-- Rules that agree but for how their patterns were written make rewriters that do. -/
theorem forget_ofRules [Pattern.Engine] {declared others : List RewriteRule} (fallback : String)
    {priority : String → Int}
    (same : (others.filterMap (Rule.ofDeclared? priority)).map Rule.forget =
      (declared.filterMap (Rule.ofDeclared? priority)).map Rule.forget) :
    (ofRules others fallback priority).forget = (ofRules declared fallback priority).forget := by
  have sorted : ∀ rules : List Rule,
      (sortBy (fun first second => compare second.priority first.priority) rules).map Rule.forget =
        sortBy (fun first second => compare second.priority first.priority)
          (rules.map Rule.forget) :=
    fun rules => (@sortBy_map Rule _ Rule.forget (fun _ _ => rfl) rules).symm
  rw [forget, forget, ofRules, ofRules, sorted, sorted, same]

/-- The same words give the same priority. -/
theorem priority_of_sameWords {rule other : RewriteRule} (recased : rule.Recased other)
    (words : rule.SameWords other) :
    other.priority.getD (priorityByParts other.pattern) =
      rule.priority.getD (priorityByParts rule.pattern) := by
  rw [recased.priority]
  cases own : rule.priority with
  | some priority => rfl
  | none =>
    rw [Option.getD_none, Option.getD_none, priorityByParts, priorityByParts, words.title,
      words.windowClass own]

section Engines

variable [Pattern.Engine]

/-- What a rule that has been made ready does not forget. -/
theorem map_forget_ofDeclared? (ignoring : Pattern.Engine.IgnoresCase) (priority : String → Int)
    (rule : RewriteRule) :
    (Rule.ofDeclared? priority rule).map Rule.forget =
      ((Pattern.Engine.compile? rule.pattern).map Pattern.captures?).map fun captures? =>
        { pattern := {
            source := if Text.occurs "title".toList rule.pattern.toList then "title" else ""
            occursIn := fun _ => false
            captures? := captures? }
          template := rule.template
          priority := rule.priority.getD (priority rule.pattern) } := by
  rw [Rule.ofDeclared?, Option.map_map, Option.map_map]
  refine Option.map_congr fun pattern compiled => ?_
  rw [Function.comp_apply, Function.comp_apply, Rule.forget, ignoring.source compiled]

theorem ofDeclared?_recased (ignoring : Pattern.Engine.IgnoresCase) {rule other : RewriteRule}
    (recased : rule.Recased other) (words : rule.SameWords other) :
    (Rule.ofDeclared? priorityByParts other).map Rule.forget =
      (Rule.ofDeclared? priorityByParts rule).map Rule.forget := by
  rw [map_forget_ofDeclared? ignoring, map_forget_ofDeclared? ignoring,
    ignoring.recased recased.literal recased.letters, words.title, recased.template,
    priority_of_sameWords recased words]

/-- A rewriter is about titles if the word is found in a pattern that can be used. -/
theorem readsTitle_ofRules (ignoring : Pattern.Engine.IgnoresCase) (declared : List RewriteRule)
    (fallback : String) (priority : String → Int) :
    (ofRules declared fallback priority).readsTitle = declared.any fun rule =>
      Text.occurs "title".toList rule.pattern.toList &&
        (Pattern.Engine.compile? rule.pattern).isSome := by
  rw [readsTitle, ofRules, (sortBy_perm _ _).any_eq, List.any_filterMap]
  refine congrArg (List.any declared) (funext fun rule => ?_)
  rw [Rule.ofDeclared?]
  cases compiled : Pattern.Engine.compile? rule.pattern with
  | none => exact (Bool.and_false _).symm
  | some pattern =>
    rw [← ignoring.source compiled]
    exact (Bool.and_true _).symm

end Engines

/-- With an engine that ignores case, rules in other letter case make a rewriter that gives every
window the same text and is about titles alike, if the same words are found in their patterns. -/
theorem windowText_recased [Pattern.Engine] (ignoring : Pattern.Engine.IgnoresCase)
    {declared recased : List RewriteRule} (fallback : String)
    (variants : List.Forall₂ RewriteRule.Recased declared recased)
    (words : List.Forall₂ RewriteRule.SameWords declared recased) :
    (∀ windowClass title,
      (ofRules recased fallback priorityByParts).windowText windowClass title =
        (ofRules declared fallback priorityByParts).windowText windowClass title) ∧
      (ofRules recased fallback priorityByParts).readsTitle =
        (ofRules declared fallback priorityByParts).readsTitle := by
  have same : (recased.filterMap (Rule.ofDeclared? priorityByParts)).map Rule.forget =
      (declared.filterMap (Rule.ofDeclared? priorityByParts)).map Rule.forget := by
    rw [List.map_filterMap, List.map_filterMap]
    induction variants with
    | nil => rfl
    | cons variant rest inductionHypothesis =>
      obtain ⟨head, tail⟩ := List.forall₂_cons.mp words
      rw [List.filterMap_cons, List.filterMap_cons, ofDeclared?_recased ignoring variant head,
        inductionHypothesis tail]
  have forgotten := forget_ofRules fallback same
  constructor
  · intro windowClass title
    rw [← windowText_forget, forgotten, windowText_forget]
  · rw [← readsTitle_forget, forgotten, readsTitle_forget]

theorem windowText_recased_kitty :
    (ofRules [⟨"K", "terminal", none⟩] "?" priorityByParts).windowText "kitty" "vim" =
      "terminal" := by
  have variant : RewriteRule.Recased ⟨"k", "terminal", none⟩ ⟨"K", "terminal", none⟩ :=
    ⟨by decide, by decide, rfl, rfl⟩
  have words : RewriteRule.SameWords ⟨"k", "terminal", none⟩ ⟨"K", "terminal", none⟩ :=
    ⟨by decide, fun _ => by decide⟩
  rw [(windowText_recased Pattern.ignoresCase_compiled "?" (.cons variant .nil)
    (.cons words .nil)).1]
  decide +kernel

/-- A rule about titles is not known for one when it is written in capitals. -/
theorem not_windowText_recased :
    ¬ ∀ (declared recased : List RewriteRule) (fallback : String),
      List.Forall₂ RewriteRule.Recased declared recased →
      (∀ windowClass title,
        (ofRules recased fallback priorityByParts).windowText windowClass title =
          (ofRules declared fallback priorityByParts).windowText windowClass title) ∧
        (ofRules recased fallback priorityByParts).readsTitle =
          (ofRules declared fallback priorityByParts).readsTitle := by
  intro always
  have variant : RewriteRule.Recased ⟨"title", "T", none⟩ ⟨"TITLE", "T", none⟩ :=
    ⟨by decide, by decide, rfl, rfl⟩
  have same := (always _ _ "?" (.cons variant .nil)).2
  rw [readsTitle_ofRules Pattern.ignoresCase_compiled,
    readsTitle_ofRules Pattern.ignoresCase_compiled] at same
  exact absurd same (by decide +kernel)

end Rewriter

end Deskbar
