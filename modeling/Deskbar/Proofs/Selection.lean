/-
This file says which rule gives the text for an input. Of the rules that can be used and whose
patterns match, it is the one declared first among those of the greatest priority, and the fallback
stands in where there is none. The rules are sorted once, and answers are remembered, but neither
shows: whatever a rewriter has been asked before, an answer depends on its input alone. Which texts
are patterns, what they match and what a match makes of a template is left to the engine.
-/

import Deskbar.Proofs.Reload
import Deskbar.Proofs.Sorting

namespace Deskbar

namespace RewriteRule

/-- What a declared rule makes of an input, if its pattern is one to the engine and matches. -/
def textFor? [Pattern.Engine] (input : String) (declared : RewriteRule) : Option String :=
  (Pattern.Engine.compile? declared.pattern).bind fun pattern =>
    (pattern.captures? input).map fun captures => captures.expand declared.template

/-- The priority that a declared rule has: its own one, or else that of its pattern. -/
def rank (priority : String → Int) (declared : RewriteRule) : Int :=
  declared.priority.getD (priority declared.pattern)

/-- Declared rules are in an order by their priorities. -/
instance transCmp_rank (priority : String → Int) :
    Std.TransCmp fun first second : RewriteRule =>
      compare (second.rank priority) (first.rank priority) :=
  inferInstanceAs (Std.TransCmp fun first second => compareOn (rank priority) second first)

end RewriteRule

namespace Rewriter

/-- The outcome for an input as the declared rules have it with an engine. A rule gives it that
matches, has a greater priority than all rules before it that match, and no smaller one than those
behind it. -/
inductive Answers [Pattern.Engine] (declared : List RewriteRule) (fallback : String)
    (priority : String → Int) (input : String) : Outcome → Prop
  | chosen {earlier later : List RewriteRule} {rule : RewriteRule} {text : String}
      (among : declared = earlier ++ rule :: later) (gives : rule.textFor? input = some text)
      (above : ∀ other ∈ earlier, (other.textFor? input).isSome = true →
        other.rank priority < rule.rank priority)
      (notBelow : ∀ other ∈ later, (other.textFor? input).isSome = true →
        other.rank priority ≤ rule.rank priority) :
      Answers declared fallback priority input ⟨text, true⟩
  | unmatched (none : ∀ rule ∈ declared, rule.textFor? input = none) :
      Answers declared fallback priority input ⟨fallback, false⟩

/-- Rules that are ready are in an order by their priorities. -/
instance Rule.transCmp_priority :
    Std.TransCmp fun first second : Rule => compare second.priority first.priority :=
  inferInstanceAs (Std.TransCmp fun first second => compareOn Rule.priority second first)

variable [Pattern.Engine] {declared : List RewriteRule} {fallback : String}
  {priority : String → Int} {input : String}

/-! ### Rules that are ready -/

theorem Rule.ofDeclared?_eq_none {rule : RewriteRule}
    (unusable : Rule.ofDeclared? priority rule = none) : rule.textFor? input = none := by
  rw [RewriteRule.textFor?, Option.map_eq_none_iff.mp unusable]
  rfl

/-- A rule that is ready does what the declared one does, and has its priority. -/
theorem Rule.of_ofDeclared? {rule : RewriteRule} {ready : Rule}
    (usable : Rule.ofDeclared? priority rule = some ready) (input : String) :
    ready.apply? input = rule.textFor? input ∧ ready.priority = rule.rank priority := by
  obtain ⟨pattern, compiled, rfl⟩ := Option.map_eq_some_iff.mp usable
  refine ⟨?_, rfl⟩
  rw [RewriteRule.textFor?, compiled]
  rfl

/-- A declared rule gives a text for an input if it is ready and gives one then. -/
theorem Rule.isSome_textFor?_iff (priority : String → Int) (rule : RewriteRule) :
    (rule.textFor? input).isSome = true ↔ ∃ ready, Rule.ofDeclared? priority rule = some ready ∧
      (Option.isSome <| ready.apply? input) = true := by
  cases usable : Rule.ofDeclared? priority rule with
  | none =>
    rw [ofDeclared?_eq_none usable]
    refine ⟨Bool.noConfusion, ?_⟩
    rintro ⟨ready, made, -⟩
    cases made
  | some ready =>
    rw [← (of_ofDeclared? usable input).1]
    exact ⟨fun gives => ⟨ready, rfl, gives⟩, fun ⟨_, same, gives⟩ => Option.some.inj same ▸ gives⟩

/-- The rule that gives the text for an input was declared first among those of the greatest
priority that give one. -/
theorem leads_of_findSome? {text : String}
    (found : ((ofRules declared fallback priority).rules.findSome? fun rule =>
      rule.apply? input) = some text) :
    ∃ rule, rule.textFor? input = some text ∧
      Leads (fun first second : RewriteRule =>
        compare (second.rank priority) (first.rank priority))
        (fun rule => (rule.textFor? input).isSome) declared rule := by
  -- The sorted rules are the ready ones, and those come from the declared ones in their order.
  obtain ⟨tried, ready, untried, sorted, gives, failed⟩ := List.findSome?_eq_some_iff.mp found
  have first : (ofRules declared fallback priority).rules.find?
      (fun rule => Option.isSome <| rule.apply? input) = some ready := by
    refine List.find?_eq_some_iff_append.mpr
      ⟨Option.isSome_of_eq_some gives, tried, untried, sorted, fun other member => ?_⟩
    rw [failed other member]
    rfl
  have compares {rule other : RewriteRule} {made otherMade : Rule}
      (usable : Rule.ofDeclared? priority rule = some made)
      (otherUsable : Rule.ofDeclared? priority other = some otherMade) :
      compare otherMade.priority made.priority =
        compare (other.rank priority) (rule.rank priority) := by
    rw [(Rule.of_ofDeclared? usable input).2, (Rule.of_ofDeclared? otherUsable input).2]
  obtain ⟨rule, usable, leads⟩ := (leads_of_find?_sortBy first).of_filterMap compares
    (Rule.isSome_textFor?_iff priority)
  exact ⟨rule, (Rule.of_ofDeclared? usable input).1.symm.trans gives, leads⟩

/-! ### Outcomes -/

namespace Answers

variable {outcome other : Outcome} {text : String}

/-- A declared rule gives the outcome when it comes first among those that match. -/
theorem of_leads {rule : RewriteRule}
    (leads : Leads (fun first second : RewriteRule =>
      compare (second.rank priority) (first.rank priority))
      (fun rule => (rule.textFor? input).isSome) declared rule)
    (gives : rule.textFor? input = some text) :
    Answers declared fallback priority input ⟨text, true⟩ := by
  obtain ⟨earlier, later, among, -, above, notBelow⟩ := leads
  exact chosen among gives
    (fun other member matched => Std.compare_eq_lt.mp (above other member matched))
    (fun other member matched =>
      Std.isLE_compare.mp (Ordering.isLE_iff_ne_gt.mpr (notBelow other member matched)))

/-- No declared rule but one that comes first among those that match gives the outcome. -/
theorem exists_leads (answers : Answers declared fallback priority input outcome) :
    (∃ rule, Leads (fun first second : RewriteRule =>
        compare (second.rank priority) (first.rank priority))
        (fun rule => (rule.textFor? input).isSome) declared rule ∧
      ∃ text, rule.textFor? input = some text ∧ outcome = ⟨text, true⟩) ∨
    (∀ rule ∈ declared, rule.textFor? input = none) ∧ outcome = ⟨fallback, false⟩ := by
  cases answers with
  | @chosen earlier later rule text among gives above notBelow =>
    refine Or.inl ⟨rule, ⟨earlier, later, among, Option.isSome_of_eq_some gives, ?_, ?_⟩, text,
      gives, rfl⟩
    · exact fun other member matched => Std.compare_eq_lt.mpr (above other member matched)
    · exact fun other member matched =>
        Ordering.isLE_iff_ne_gt.mp (Std.isLE_compare.mpr (notBelow other member matched))
  | unmatched none => exact Or.inr ⟨none, rfl⟩

/-- Declared rules have no more than one outcome for an input. -/
theorem unique (answers : Answers declared fallback priority input outcome)
    (answersToo : Answers declared fallback priority input other) : outcome = other := by
  rcases answers.exists_leads with ⟨rule, leads, text, gives, rfl⟩ | ⟨none, rfl⟩ <;>
    rcases answersToo.exists_leads with
      ⟨ruleToo, leadsToo, textToo, givesToo, rfl⟩ | ⟨noneToo, rfl⟩
  · rw [leads.unique leadsToo, givesToo] at gives
    rw [Option.some.inj gives]
  · obtain ⟨earlier, later, rfl, -⟩ := leads
    rw [noneToo rule (by simp)] at gives
    cases gives
  · obtain ⟨earlier, later, rfl, -⟩ := leadsToo
    rw [none ruleToo (by simp)] at givesToo
    cases givesToo
  · rfl

end Answers

/-- What a rewriter answers is what the declared rules have. -/
theorem answers_resolve (declared : List RewriteRule) (fallback : String)
    (priority : String → Int) (input : String) :
    Answers declared fallback priority input
      ((ofRules declared fallback priority).resolve input) := by
  rw [resolve]
  split
  · next text found =>
    obtain ⟨rule, gives, leads⟩ := leads_of_findSome? found
    exact Answers.of_leads leads gives
  · next missing =>
    refine Answers.unmatched fun rule member => ?_
    by_contra matched
    obtain ⟨ready, usable, passes⟩ := (Rule.isSome_textFor?_iff priority rule).mp
      (Option.isSome_iff_ne_none.mpr matched)
    have listed : ready ∈ (ofRules declared fallback priority).rules :=
      (sortBy_perm ..).mem_iff.mpr (List.mem_filterMap.mpr ⟨rule, member, usable⟩)
    rw [List.findSome?_eq_none_iff.mp missing ready listed] at passes
    cases passes

/-- Whatever the engine, and whatever row of inputs a rewriter is asked, it answers each of them as
the declared rules have it, and in no other way. -/
theorem answers_resolveAll (declared : List RewriteRule) (fallback : String)
    (priority : String → Int) (inputs : List String) :
    List.Forall₂
      (fun input outcome => ∀ other,
        Answers declared fallback priority input other ↔ other = outcome)
      inputs
      (Remembering.resolveAll { rewriter := ofRules declared fallback priority } inputs).1 := by
  rw [((Remembering.isFaithful_new _).resolveAll inputs).1, List.forall₂_map_right_iff]
  refine List.forall₂_same.mpr fun input _ other => ⟨fun answers => ?_, ?_⟩
  · exact answers.unique (answers_resolve declared fallback priority input)
  · rintro rfl
    exact answers_resolve declared fallback priority input

end Rewriter

end Deskbar
