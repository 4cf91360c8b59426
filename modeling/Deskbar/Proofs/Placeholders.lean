/-
This file says what the label of a workspace is: the format with values in the places of its
placeholders and with every other character where it was. A format is read once from left to right,
and what has been put in is not read at all. A brace opens a name that goes on to the next closing
brace whatever stands between the two, so a placeholder behind a brace that is still open belongs to
a longer name, which is not known, and stays as it is written.
-/

import Deskbar.Proofs.Pieces
import Deskbar.Workspace.Label

namespace Deskbar

/-! ### Placeholders -/

/-- What a format can ask for. -/
inductive Placeholder where
  | id
  | name
  | icon
  | windows
  deriving DecidableEq

namespace Placeholder

instance (test : Placeholder → Prop) [DecidablePred test] : Decidable (∀ place, test place) :=
  decidable_of_iff (test .id ∧ test .name ∧ test .icon ∧ test .windows)
    ⟨fun ⟨_, _, _, _⟩ place => by cases place <;> assumption,
      fun all => ⟨all _, all _, all _, all _⟩⟩

/-- The word for a placeholder. -/
def word : Placeholder → String
  | .id => "id"
  | .name => "name"
  | .icon => "icon"
  | .windows => "windows"

/-- How a format asks for a value. -/
def token (placeholder : Placeholder) : List Char := '{' :: (placeholder.word.toList ++ ['}'])

theorem close_not_mem_word (placeholder : Placeholder) : '}' ∉ placeholder.word.toList := by
  cases placeholder <;> decide

theorem word_injective : Function.Injective word := by
  intro first second same
  cases first <;> cases second <;> first | rfl | exact absurd same (by decide)

variable {first second : Placeholder} {firstRest secondRest : List Char}

theorem token_append (placeholder : Placeholder) (rest : List Char) :
    placeholder.token ++ rest = '{' :: (placeholder.word.toList ++ '}' :: rest) := by
  rw [token, List.cons_append, List.append_assoc, List.singleton_append]

/-- No token begins another one. -/
theorem token_append_inj (same : first.token ++ firstRest = second.token ++ secondRest) :
    first = second ∧ firstRest = secondRest := by
  rw [token_append, token_append] at same
  obtain ⟨sameWord, sameRest⟩ := Text.append_cons_inj first.close_not_mem_word
    second.close_not_mem_word (List.cons.inj same).2
  exact ⟨word_injective (String.toList_injective sameWord), sameRest⟩

/-- A name between braces is read as a placeholder only if it is the word for it. -/
theorem name_of_prefix {placeholder : Placeholder} {name rest : List Char} (closed : '}' ∉ name)
    (here : placeholder.token <+: '{' :: (name ++ '}' :: rest)) :
    name = placeholder.word.toList := by
  obtain ⟨behind, whole⟩ := here
  rw [token_append] at whole
  exact (Text.append_cons_inj closed placeholder.close_not_mem_word
    (List.cons.inj whole).2.symm).1

/-- A token goes on to a closing brace. -/
theorem close_mem_of_prefix {placeholder : Placeholder} {text : List Char}
    (here : placeholder.token <+: text) : '}' ∈ text :=
  here.subset (List.mem_cons_of_mem _ (List.mem_append_right _ List.mem_cons_self))

/-- A token begins with an opening brace. -/
theorem head_of_prefix {placeholder : Placeholder} {c : Char} {text : List Char}
    (here : placeholder.token <+: c :: text) : c = '{' :=
  (List.cons_prefix_cons.mp here).1.symm

end Placeholder

namespace Label

/-! ### Filling in -/

/-- How a text is filled in behind another one. Values take the places of the placeholders that
count, which is decided by what stands in front of them, and every other character stays. -/
inductive Filled (counts : List Char → Prop) (value : Placeholder → String) :
    List Char → List Char → List Char → Prop where
  | done {before : List Char} : Filled counts value before [] []
  | place {before rest filled : List Char} (placeholder : Placeholder) (counted : counts before)
      (behind : Filled counts value (before ++ placeholder.token) rest filled) :
      Filled counts value before (placeholder.token ++ rest)
        ((value placeholder).toList ++ filled)
  | character {before rest filled : List Char} {c : Char}
      (unplaced : counts before → ∀ placeholder : Placeholder, ¬ placeholder.token <+: c :: rest)
      (behind : Filled counts value (before ++ [c]) rest filled) :
      Filled counts value before (c :: rest) (c :: filled)

section Filled

variable {counts countsToo : List Char → Prop} {value : Placeholder → String}
  {before text filled filledToo : List Char}

/-- A text is filled in one way only. -/
theorem Filled.unique (isFilled : Filled counts value before text filled)
    (isFilledToo : Filled counts value before text filledToo) : filled = filledToo := by
  induction isFilled generalizing filledToo with
  | done =>
    generalize same : [] = text at isFilledToo
    cases isFilledToo with
    | done => rfl
    | place | character => cases same
  | @place before rest filled placeholder counted behind inductionHypothesis =>
    generalize same : placeholder.token ++ rest = text at isFilledToo
    cases isFilledToo with
    | done => cases same
    | place other counted behindToo =>
      obtain ⟨rfl, rfl⟩ := Placeholder.token_append_inj same
      rw [inductionHypothesis behindToo]
    | character unplaced => exact absurd ⟨rest, same⟩ (unplaced counted placeholder)
  | @character before rest filled c unplaced behind inductionHypothesis =>
    generalize same : c :: rest = text at isFilledToo
    cases isFilledToo with
    | done => cases same
    | place placeholder counted => exact absurd ⟨_, same.symm⟩ (unplaced counted placeholder)
    | character unplacedToo behindToo =>
      obtain ⟨rfl, rfl⟩ := List.cons.inj same
      rw [inductionHypothesis behindToo]

/-- What counts matters in front of placeholders only. -/
theorem Filled.of_agree (isFilled : Filled counts value before text filled)
    (agree : ∀ front (placeholder : Placeholder) behind,
      text = front ++ placeholder.token ++ behind →
        (counts (before ++ front) ↔ countsToo (before ++ front))) :
    Filled countsToo value before text filled := by
  induction isFilled with
  | done => exact .done
  | @place before rest filled placeholder counted behind inductionHypothesis =>
    have here := agree [] placeholder rest rfl
    rw [List.append_nil] at here
    refine .place placeholder (here.mp counted) (inductionHypothesis ?_)
    rintro front other after rfl
    simpa only [List.append_assoc] using agree (placeholder.token ++ front) other after
      (by simp only [List.append_assoc])
  | @character before rest filled c unplaced behind inductionHypothesis =>
    refine .character (fun counted placeholder here => ?_) (inductionHypothesis ?_)
    · obtain ⟨behind, whole⟩ := here
      have agreed := agree [] placeholder behind whole.symm
      rw [List.append_nil] at agreed
      exact unplaced (agreed.mpr counted) placeholder ⟨behind, whole⟩
    · rintro front placeholder after rfl
      simpa only [List.append_assoc, List.singleton_append] using
        agree (c :: front) placeholder after rfl

end Filled

/-! ### Open braces -/

/-- Whether a brace is open at the end of a text: the last opening one has no closing one behind
it. -/
def IsOpen (text : List Char) : Prop := '{' ∈ text.reverse.takeWhile (· ≠ '}')

instance (text : List Char) : Decidable (IsOpen text) := inferInstanceAs (Decidable (_ ∈ _))

theorem isOpen_concat (text : List Char) (c : Char) :
    IsOpen (text ++ [c]) ↔ c ≠ '}' ∧ (c = '{' ∨ IsOpen text) := by
  rw [IsOpen, List.reverse_concat, List.takeWhile_cons]
  by_cases closing : c = '}'
  · simp [closing]
  · simp [closing, IsOpen, eq_comm]

theorem not_isOpen_closed (before name : List Char) :
    ¬ IsOpen (before ++ '{' :: (name ++ ['}'])) := by
  rw [← List.cons_append, ← List.append_assoc, isOpen_concat]
  exact fun isOpen => isOpen.1 rfl

/-- Whether no placeholder of a format stands behind an open brace. -/
def IsUnnested (format : List Char) : Prop :=
  ∀ front (placeholder : Placeholder) behind,
    format = front ++ placeholder.token ++ behind → ¬ IsOpen front

instance (format : List Char) : Decidable (IsUnnested format) :=
  decidable_of_iff (∀ place ≤ format.length, ∀ placeholder : Placeholder,
    placeholder.token <+: format.drop place → ¬ IsOpen (format.take place)) <| by
  constructor
  · rintro unnested front placeholder behind rfl
    have here := unnested front.length (by simp) placeholder
    rw [List.append_assoc, List.drop_left, List.take_left] at here
    exact here (List.prefix_append _ _)
  · rintro unnested place - placeholder ⟨behind, whole⟩
    refine unnested _ placeholder behind ?_
    rw [List.append_assoc, whole, List.take_append_drop]

/-! ### Reading a format -/

section Reading

variable {value? : String → Option String} {value : Placeholder → String}
  {before name piece rest filled : List Char}

/-- Behind an open brace everything up to the next closing one stays. -/
theorem Filled.kept (isOpen : IsOpen before) (unclosed : '}' ∉ piece)
    (behind : Filled (fun before => ¬ IsOpen before) value (before ++ piece) rest filled) :
    Filled (fun before => ¬ IsOpen before) value before (piece ++ rest) (piece ++ filled) := by
  induction piece generalizing before with
  | nil => rwa [List.append_nil] at behind
  | cons c piece inductionHypothesis =>
    obtain ⟨notClosing, restUnclosed⟩ := List.ne_and_not_mem_of_not_mem_cons unclosed
    refine .character (fun closed => absurd isOpen closed) (inductionHypothesis ?_ restUnclosed ?_)
    · exact (isOpen_concat before c).mpr ⟨notClosing.symm, Or.inr isOpen⟩
    · rwa [List.append_assoc, List.singleton_append]

/-- A brace that is never closed opens no name. -/
theorem filled_unclosed (unclosed : '}' ∉ name) :
    Filled (fun before => ¬ IsOpen before) value before ('{' :: name) ('{' :: name) := by
  refine .character (fun _ placeholder here => ?_) ?_
  · rcases List.mem_cons.mp (Placeholder.close_mem_of_prefix here) with same | inName
    · exact absurd same (by decide)
    · exact unclosed inName
  · have isOpen := (isOpen_concat before '{').mpr ⟨by decide, Or.inl rfl⟩
    have kept := Filled.kept isOpen unclosed
      (.done : Filled _ value (before ++ ['{'] ++ name) [] [])
    rwa [List.append_nil] at kept

/-- A name that is not the word for a placeholder stays, and so do its braces. -/
theorem filled_unknown (unclosed : '}' ∉ name)
    (unknown : ∀ placeholder : Placeholder, name ≠ placeholder.word.toList)
    (behind : Filled (fun before => ¬ IsOpen before) value (before ++ '{' :: (name ++ ['}']))
      rest filled) :
    Filled (fun before => ¬ IsOpen before) value before ('{' :: (name ++ '}' :: rest))
      ('{' :: (name ++ '}' :: filled)) := by
  refine .character (fun _ placeholder here =>
    unknown placeholder (Placeholder.name_of_prefix unclosed here)) ?_
  refine Filled.kept ((isOpen_concat before '{').mpr ⟨by decide, Or.inl rfl⟩) unclosed ?_
  refine .character (fun _ placeholder here => ?_) (by simpa using behind)
  exact absurd (Placeholder.head_of_prefix here) (by decide)

/-- A format is filled in behind a text without an open brace, from its beginning or from a brace
that has been opened. -/
theorem filled_fill (known : ∀ placeholder : Placeholder,
      value? placeholder.word = some (value placeholder))
    (unknown : ∀ name, (∀ placeholder : Placeholder, name ≠ placeholder.word) →
      value? name = none)
    (format : List Char) {before : List Char} (closed : ¬ IsOpen before) :
    Filled (fun before => ¬ IsOpen before) value before format (fill value? none format) ∧
      ∀ opened, '}' ∉ opened →
        Filled (fun before => ¬ IsOpen before) value before ('{' :: (opened.reverse ++ format))
          (fill value? (some opened) format) := by
  induction format generalizing before with
  | nil =>
    refine ⟨.done, fun opened unclosed => ?_⟩
    rw [List.append_nil]
    exact filled_unclosed fun inName => unclosed (List.mem_reverse.mp inName)
  | cons c rest inductionHypothesis =>
    constructor
    · rw [fill]
      split
      · next opens =>
        rw [opens]
        exact (inductionHypothesis closed).2 [] List.not_mem_nil
      · next other =>
        refine .character (fun _ placeholder here => other (Placeholder.head_of_prefix here))
          (inductionHypothesis fun isOpen => ?_).1
        exact ((isOpen_concat before c).mp isOpen).2.elim other closed
    · intro opened unclosed
      rw [fill]
      split
      · next closes =>
        subst closes
        have nameUnclosed : '}' ∉ opened.reverse := fun inName =>
          unclosed (List.mem_reverse.mp inName)
        dsimp only
        by_cases isWord : ∃ placeholder : Placeholder, opened.reverse = placeholder.word.toList
        · obtain ⟨placeholder, same⟩ := isWord
          rw [same, String.ofList_toList, known, ← Placeholder.token_append]
          exact .place placeholder closed (inductionHypothesis (not_isOpen_closed _ _)).1
        · have notWord : ∀ placeholder : Placeholder, opened.reverse ≠ placeholder.word.toList :=
            fun placeholder same => isWord ⟨placeholder, same⟩
          rw [unknown _ fun placeholder same => notWord placeholder
            (by rw [← same, String.toList_ofList])]
          simpa using filled_unknown nameUnclosed notWord
            (inductionHypothesis (not_isOpen_closed _ _)).1
      · next other =>
        have longer := (inductionHypothesis closed).2 (c :: opened) fun inOpened =>
          (List.mem_cons.mp inOpened).elim (fun same => other same.symm) unclosed
        simpa using longer

end Reading

end Label

/-! ### Labels -/

namespace Workspace

/-- The value of a placeholder in the label of a workspace. A workspace that is not reported has no
id to show. -/
def placeholderValue (workspace : Workspace) (icon separator : String) : Placeholder → String
  | .id => (workspace.id.map toString).getD ""
  | .name => workspace.name
  | .icon => icon
  | .windows => Text.join separator workspace.windows.values

theorem placeholderText?_word (workspace : Workspace) (icon separator : String)
    (placeholder : Placeholder) :
    workspace.placeholderText? icon separator placeholder.word =
      some (workspace.placeholderValue icon separator placeholder) := by
  cases placeholder <;> rfl

theorem placeholderText?_of_ne (workspace : Workspace) (icon separator : String) {name : String}
    (unknown : ∀ placeholder : Placeholder, name ≠ placeholder.word) :
    workspace.placeholderText? icon separator name = none := by
  unfold placeholderText?
  split
  · exact absurd rfl (unknown .id)
  · exact absurd rfl (unknown .name)
  · exact absurd rfl (unknown .icon)
  · exact absurd rfl (unknown .windows)
  · rfl

/-- A label is the format with values in the places of all placeholders that stand behind no open
brace, and with every other character where it was. What the values hold does not matter. In a
format without placeholders behind open braces, all placeholders are filled. -/
theorem label_filled (workspace : Workspace) (format icon separator : String) :
    Label.Filled (fun before => ¬ Label.IsOpen before)
        (workspace.placeholderValue icon separator) [] format.toList
        (workspace.label format icon separator).toList ∧
      (Label.IsUnnested format.toList →
        Label.Filled (fun _ => True) (workspace.placeholderValue icon separator) []
          format.toList (workspace.label format icon separator).toList) := by
  have filled := (Label.filled_fill (workspace.placeholderText?_word icon separator)
    (fun name => workspace.placeholderText?_of_ne icon separator) format.toList
    (show ¬ Label.IsOpen [] by decide)).1
  rw [label, String.toList_ofList]
  refine ⟨filled, fun unnested => filled.of_agree fun front placeholder behind whole => ?_⟩
  exact ⟨fun _ => trivial, fun _ => unnested front placeholder behind whole⟩

/-- A workspace that is named like a placeholder. -/
def bracedWorkspace : Workspace := ofReport 1 { id := 3, name := "\x7bid\x7d" }

/-- Braces that are closed too often or never, unknown names and a value that looks like a
placeholder stand in nobody's way. -/
theorem label_filled_bracedWorkspace :
    let format := "\x7d\x7bname\x7d \x7bx\x7d \x7bid\x7d \x7b"
    Label.IsUnnested format.toList ∧
      Label.Filled (fun _ => True) (bracedWorkspace.placeholderValue "*" "|") [] format.toList
        "\x7d\x7bid\x7d \x7bx\x7d 3 \x7b".toList := by
  have unnested : Label.IsUnnested
      "\x7d\x7bname\x7d \x7bx\x7d \x7bid\x7d \x7b".toList := by decide +kernel
  have text : bracedWorkspace.label "\x7d\x7bname\x7d \x7bx\x7d \x7bid\x7d \x7b" "*" "|" =
      "\x7d\x7bid\x7d \x7bx\x7d 3 \x7b" := by decide +kernel
  exact ⟨unnested, text ▸ (label_filled bracedWorkspace _ "*" "|").2 unnested⟩

/-- A placeholder behind a brace that is still open is not filled. -/
theorem not_label_filled : ¬ ∀ (workspace : Workspace) (format icon separator : String),
    Label.Filled (fun _ => True) (workspace.placeholderValue icon separator) [] format.toList
      (workspace.label format icon separator).toList := by
  intro always
  have stays : (bracedWorkspace.label "\x7b\x7bid\x7d" "*" "|").toList =
      "\x7b\x7bid\x7d".toList := by decide +kernel
  have filled : Label.Filled (fun _ => True) (bracedWorkspace.placeholderValue "*" "|") []
      "\x7b\x7bid\x7d".toList "\x7b3".toList :=
    .character (fun _ => by decide) (.place .id trivial .done)
  have same := filled.unique (always bracedWorkspace "\x7b\x7bid\x7d" "*" "|")
  rw [stays] at same
  exact absurd same (by decide)

end Workspace

end Deskbar
