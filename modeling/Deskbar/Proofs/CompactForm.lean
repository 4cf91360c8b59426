/-
This file proves that the compact form of a document takes one line and that the document can be
recovered from it. The reader comes to the document that was written and leaves what stands behind
it. Whole numbers have to fit into a word, since longer ones are read as approximations, the members
of an object have to have different names, and nothing may lie deeper than the reader goes.
-/

import Mathlib.Algebra.Order.Ring.Int
import Mathlib.Data.List.Nodup
import Deskbar.Json.Reader
import Deskbar.Json.Writer

namespace Deskbar.Json

/-! ### Texts -/

/-- A control character is written by two digits that are read as its code. -/
theorem readHex?_twoHexDigits :
    ∀ value < 0x20, ∃ first second, twoHexDigits value = [first, second] ∧
      Text.readHex? ['0', '0', first, second] = some value := by
  have all : ∀ value < 0x20, (twoHexDigits value).length = 2 ∧
      Text.readHex? ('0' :: '0' :: twoHexDigits value) = some value := by decide
  intro value small
  obtain ⟨two, read⟩ := all value small
  obtain ⟨first, second, digits⟩ := List.length_eq_two.mp two
  exact ⟨first, second, digits, by rwa [digits] at read⟩

theorem readText_escapedChar (c : Char) (rest : List Char) :
    readText none (escapedChar c ++ rest) =
      (readText none rest).map fun (text, after) => (c :: text, after) := by
  unfold escapedChar
  split
  case h_8 =>
    by_cases control : c.toNat < 0x20
    · obtain ⟨first, second, digits, read⟩ := readHex?_twoHexDigits c.toNat control
      have notOpening : opensPair c.toNat = false := by simp [opensPair]; omega
      have notClosing : closesPair c.toNat = false := by simp [closesPair]; omega
      rw [if_pos control, digits]
      simp only [List.cons_append, List.nil_append]
      rw [readText.eq_def]
      simp [read, notOpening, notClosing, Char.ofNat_toNat]
    · rw [if_neg control]
      have visible : 0x20 ≤ c.toNat := Nat.le_of_not_lt control
      -- The character is no quote and no backslash, so it stands for itself.
      rw [List.singleton_append, readText.eq_def]
      split <;> simp_all
  all_goals
    simp [readText, escapeChar?]

theorem readText_textChars (text : String) (rest : List Char) :
    readText none (text.toList.flatMap escapedChar ++ '"' :: rest) = some (text.toList, rest) := by
  induction text.toList with
  | nil => simp [readText]
  | cons c more inductionHypothesis =>
    rw [List.flatMap_cons, List.append_assoc, readText_escapedChar, inductionHypothesis]
    rfl

/-- No character is written with a line end. -/
theorem lineFeed_not_mem_escapedChar (c : Char) : '\n' ∉ escapedChar c := by
  have digits : ∀ value < 0x20, '\n' ∉ twoHexDigits value := by decide
  unfold escapedChar
  split
  case h_8 notLineFeed _ _ =>
    split
    · rename_i control
      simp [digits c.toNat control]
    · simpa using fun same => notLineFeed same.symm
  all_goals
    decide

theorem lineFeed_not_mem_textChars (text : String) : '\n' ∉ textChars text := by
  simp [textChars, lineFeed_not_mem_escapedChar]

/-! ### Numbers -/

/-- Whether a text goes on in a way in which no number does. -/
def Ends (rest : List Char) : Prop := ∀ c ∈ rest.head?, c = ',' ∨ c = ']' ∨ c = '}' ∨ c = '\n'

theorem Ends.not_isDigit {rest : List Char} (ends : Ends rest) {c : Char}
    (next : rest.head? = some c) : c.isDigit = false := by
  rcases ends c next with rfl | rfl | rfl | rfl <;> rfl

/-- What digits add to a number in front of them. -/
theorem le_foldl_digits (digits : List Char) (value : Nat) :
    value ≤ digits.foldl (fun value c => 10 * value + Text.digitValue c) value := by
  induction digits generalizing value with
  | nil => exact Nat.le_refl value
  | cons c rest inductionHypothesis =>
    refine Nat.le_trans ?_ (inductionHypothesis (10 * value + Text.digitValue c))
    omega

/-- Digits of a number that fits into a word are all taken. -/
theorem takeDigits_of_fits {digits : List Char} {value : Nat}
    (fits : digits.foldl (fun value c => 10 * value + Text.digitValue c) value <
      Text.bitRange 64) :
    takeDigits value digits =
      (digits.foldl (fun value c => 10 * value + Text.digitValue c) value, []) := by
  induction digits generalizing value with
  | nil => rfl
  | cons c rest inductionHypothesis =>
    have step := Nat.lt_of_le_of_lt (le_foldl_digits rest (10 * value + Text.digitValue c)) fits
    rw [takeDigits, if_pos step]
    exact inductionHypothesis fits

theorem head?_toDigits {value : Nat} (positive : 0 < value) :
    (Nat.toDigits 10 value).head? ≠ some '0' := by
  induction value using Nat.strongRecOn with
  | ind value inductionHypothesis =>
    by_cases small : value < 10
    · rw [Nat.toDigits_of_lt_base small]
      have all : ∀ digit < 10, 0 < digit → [Nat.digitChar digit].head? ≠ some '0' := by decide
      exact all value small positive
    · rw [Nat.toDigits_of_base_le (by decide) (Nat.le_of_not_lt small), List.head?_append,
        Option.or_of_isSome (by simp [Nat.toDigits_ne_nil])]
      exact inductionHypothesis (value / 10) (by omega) (by omega)

theorem toList_toString_int (value : Int) :
    (toString value).toList =
      if 0 ≤ value then Nat.toDigits 10 value.toNat
      else '-' :: Nat.toDigits 10 (-value).toNat := by
  rw [show toString value = value.repr from rfl, Int.repr_eq_if]
  split <;> simp [Nat.repr_eq_ofList_toDigits]

/-- Whether a whole number is read as it is written, and not as an approximation. -/
def FitsWord (value : Int) : Prop := -2 ^ 63 ≤ value ∧ value < 2 ^ 64

theorem readNumber_toDigits (negative : Bool) (value : Nat) {rest : List Char} (ends : Ends rest)
    (fits : value < Text.bitRange 64)
    (signed : negative = true → 0 < value ∧ value ≤ Text.bitRange 63) :
    readNumber negative (Nat.toDigits 10 value ++ rest) =
      some (.whole (if negative then -value else value), rest) := by
  have digits : ∀ c ∈ Nat.toDigits 10 value, c.isDigit = true :=
    fun c => Nat.isDigit_of_mem_toDigits (by decide) (by decide)
  have stops : rest.takeWhile Char.isDigit = [] ∧ rest.dropWhile Char.isDigit = rest := by
    cases rest with
    | nil => exact ⟨rfl, rfl⟩
    | cons c more =>
      have other := ends.not_isDigit (c := c) rfl
      simp [other]
  have led : (Nat.toDigits 10 value = [] || (Nat.toDigits 10 value).head? = some '0' &&
      (Nat.toDigits 10 value).length ≠ 1) = false := by
    rcases Nat.eq_zero_or_pos value with rfl | positive
    · decide
    · simp [Nat.toDigits_ne_nil, head?_toDigits positive]
  have taken : takeDigits 0 (Nat.toDigits 10 value) = (value, []) := by
    have read : (Nat.toDigits 10 value).foldl (fun value c => 10 * value + Text.digitValue c) 0 =
      value := Nat.ofDigitChars_ten_toDigits
    rw [takeDigits_of_fits (by rwa [read]), read]
  have whole : (decide (rest.head? = some 'e') || decide (rest.head? = some 'E') ||
      decide (([] : List Char) ≠ []) || negative && (decide (value = 0) ||
        decide ((if negative = true then -(value : Int) else value) <
          -(Text.bitRange 63 : Int)))) = false := by
    have notExponent : rest.head? ≠ some 'e' ∧ rest.head? ≠ some 'E' :=
      ⟨fun next => by simpa using ends 'e' next, fun next => by simpa using ends 'E' next⟩
    cases negative with
    | false => simp [notExponent]
    | true =>
      obtain ⟨positive, bounded⟩ := signed rfl
      have nonzero : value ≠ 0 := Nat.pos_iff_ne_zero.mp positive
      simp [notExponent, nonzero, bounded]
  unfold readNumber
  simp only [List.takeWhile_append_of_pos digits, List.dropWhile_append_of_pos digits, stops,
    List.append_nil, led, taken, whole, Bool.false_eq_true, if_false]
  split
  · exact absurd (ends '.' rfl) (by decide)
  · rfl

/-! ### Values -/

/-- Whether a document is read back from its compact form, whatever follows, by a reader that may
open so many more lists and objects. The fuel need only exceed the length of the form. -/
structure ReadsBack (depth : Nat) (document : Json) : Prop where
  opens : ∃ c rest, compactChars document = c :: rest ∧ isGap c = false ∧ c ≠ ']'
  reads : ∀ fuel rest, (compactChars document).length < fuel → Ends rest →
    readValue fuel depth (compactChars document ++ rest) = some (document, rest)

variable {depth : Nat}

theorem readsBack_null : ReadsBack depth .null where
  opens := ⟨'n', _, rfl, rfl, by decide⟩
  reads
    | fuel + 1, rest, _, _ => rfl

theorem readsBack_string (text : String) : ReadsBack depth (.string text) where
  opens := ⟨'"', _, rfl, rfl, by decide⟩
  reads
    | fuel + 1, rest, _, _ => by
      have read := readText_textChars text rest
      simp only [compactChars, textChars, List.cons_append, List.append_assoc, List.nil_append,
        readValue, read, Option.map_some, String.ofList_toList]

/-- A document that starts with a digit is a number. -/
theorem readValue_of_isDigit {c : Char} (digit : c.isDigit = true) (fuel : Nat)
    (rest : List Char) :
    readValue (fuel + 1) depth (c :: rest) =
      (readNumber false (c :: rest)).map fun (value, after) => (.number value, after) := by
  rw [readValue.eq_def]
  dsimp only
  split
  case h_8 => rfl
  all_goals
    rename_i same
    obtain ⟨rfl, -⟩ := List.cons.inj same
    cases digit

theorem readsBack_whole {value : Int} (fits : FitsWord value) :
    ReadsBack depth (.whole value) := by
  obtain ⟨least, greatest⟩ := fits
  have written : compactChars (.whole value) = (toString value).toList := rfl
  rw [toList_toString_int] at written
  split at written
  case isTrue notNegative =>
    obtain ⟨c, digits, first⟩ := List.exists_cons_of_ne_nil
      (Nat.toDigits_ne_nil (n := value.toNat) (b := 10))
    have digit : c.isDigit = true := Nat.isDigit_of_mem_toDigits (by decide) (by decide)
      (first ▸ List.mem_cons_self)
    have other : ∀ d, d.isDigit = false → c ≠ d := fun d notDigit same => by
      rw [← same, digit] at notDigit
      cases notDigit
    have noGap : isGap c = false := by
      simp [isGap, other ' ' rfl, other '\n' rfl, other '\t' rfl, other '\r' rfl]
    refine ⟨⟨c, digits, written.trans first, noGap, other ']' rfl⟩, ?_⟩
    rintro (_ | fuel) rest enough ends
    · exact absurd enough (Nat.not_lt_zero _)
    have read := readNumber_toDigits false value.toNat ends (by simp [Text.bitRange]; omega) nofun
    rw [first, List.cons_append] at read
    rw [written, first, List.cons_append, readValue_of_isDigit digit, read]
    simp [Json.whole, Int.toNat_of_nonneg notNegative]
  case isFalse negative =>
    refine ⟨⟨'-', _, written, rfl, by decide⟩, ?_⟩
    rintro (_ | fuel) rest enough ends
    · exact absurd enough (Nat.not_lt_zero _)
    have read := readNumber_toDigits true (-value).toNat ends (by simp [Text.bitRange]; omega)
      fun _ => by simp [Text.bitRange]; omega
    rw [written, List.cons_append, readValue, read]
    simp [Json.whole]
    omega

/-! ### Lists and objects -/

theorem skipGaps_compactChars {document : Json} (readable : ReadsBack depth document)
    (rest : List Char) :
    skipGaps (compactChars document ++ rest) = compactChars document ++ rest := by
  obtain ⟨c, more, first, noGap, -⟩ := readable.opens
  rw [first, List.cons_append, skipGaps, List.dropWhile_cons_of_neg (by simp [noGap])]

theorem compactElements_cons_cons (first second : Json) (more : List Json) :
    compactElements (first :: second :: more) =
      compactChars first ++ ',' :: compactElements (second :: more) := by
  rw [compactElements]
  exact nofun

/-- Elements start as the first of them does. -/
theorem exists_compactElements (first : Json) (more : List Json) :
    ∃ rest, compactElements (first :: more) = compactChars first ++ rest := by
  cases more with
  | nil => exact ⟨[], by rw [compactElements, List.append_nil]⟩
  | cons second more => exact ⟨_, compactElements_cons_cons first second more⟩

theorem skipGaps_compactElements {first : Json} (readable : ReadsBack depth first)
    (more : List Json) (rest : List Char) :
    skipGaps (compactElements (first :: more) ++ rest) =
      compactElements (first :: more) ++ rest := by
  obtain ⟨others, starts⟩ := exists_compactElements first more
  rw [starts, List.append_assoc, skipGaps_compactChars readable]

/-- Elements are read back up to the end of their list. -/
theorem readElements_compactElements {elements : List Json} (filled : elements ≠ [])
    (readable : ∀ element ∈ elements, ReadsBack depth element) (fuel : Nat) (rest : List Char)
    (enough : (compactElements elements).length + 1 < fuel) :
    readElements fuel depth (compactElements elements ++ ']' :: rest) = some (elements, rest) := by
  induction elements generalizing fuel with
  | nil => exact absurd rfl filled
  | cons first more inductionHypothesis =>
    obtain ⟨fuel, rfl⟩ : ∃ less, fuel = less + 1 := ⟨fuel - 1, by omega⟩
    have readableFirst := readable first List.mem_cons_self
    cases more with
    | nil =>
      rw [compactElements] at enough ⊢
      rw [readElements, readableFirst.reads fuel _ (by omega) (by simp [Ends])]
      rfl
    | cons second more =>
      rw [compactElements_cons_cons, List.length_append, List.length_cons] at enough
      have others := inductionHypothesis (List.cons_ne_nil second more)
        (fun element member => readable element (List.mem_cons_of_mem first member)) fuel (by omega)
      have skipped := skipGaps_compactElements (readable second (by simp)) more (']' :: rest)
      have comma : ∀ text, skipGaps (',' :: text) = ',' :: text := fun _ => rfl
      rw [compactElements_cons_cons, List.append_assoc, List.cons_append, readElements,
        readableFirst.reads fuel _ (by omega) (by simp [Ends])]
      simp only [Option.bind_eq_bind, Option.bind_some, comma, skipped, others, Option.pure_def]

/-- A list that does not end at once is read by its elements. -/
theorem readValue_openList {text : List Char} (filled : ∀ after, skipGaps text ≠ ']' :: after)
    (fuel : Nat) :
    readValue (fuel + 1) (depth + 1) ('[' :: text) =
      (readElements fuel depth (skipGaps text)).map fun (list, after) => (.array list, after) := by
  rw [readValue]
  split
  · rename_i after closed
    exact absurd closed (filled after)
  · rfl

theorem readsBack_array {elements : List Json}
    (readable : ∀ element ∈ elements, ReadsBack depth element) :
    ReadsBack (depth + 1) (.array elements) where
  opens := ⟨'[', _, rfl, rfl, by decide⟩
  reads := by
    rintro (_ | fuel) rest enough -
    · exact absurd enough (Nat.not_lt_zero _)
    simp only [compactChars, List.cons_append, List.append_assoc, List.nil_append,
      List.length_cons, List.length_append, List.length_nil] at enough ⊢
    cases elements with
    | nil => rfl
    | cons first more =>
      have readableFirst := readable first List.mem_cons_self
      have skipped := skipGaps_compactElements readableFirst more (']' :: rest)
      have filled : ∀ after, skipGaps (compactElements (first :: more) ++ ']' :: rest) ≠
          ']' :: after := by
        obtain ⟨c, behind, starts, -, notClosed⟩ := readableFirst.opens
        obtain ⟨others, split⟩ := exists_compactElements first more
        intro after closed
        rw [skipped, split, starts] at closed
        exact notClosed (List.cons.inj closed).1
      have read := readElements_compactElements (List.cons_ne_nil first more) readable fuel rest
        (by omega)
      rw [readValue_openList filled, skipped, read]
      rfl

/-! ### Objects -/

theorem bind_of_not_mem {name : String} {members : List (String × Json)}
    (fresh : name ∉ members.map Prod.fst) (value : Json) :
    bind name value members = members ++ [(name, value)] := by
  induction members with
  | nil => rfl
  | cons member members inductionHypothesis =>
    rw [List.map_cons, List.mem_cons, not_or] at fresh
    rw [bind, if_neg (Ne.symm fresh.1), inductionHypothesis fresh.2, List.cons_append]

/-- How a member of an object is written. -/
def memberChars (member : String × Json) : List Char :=
  textChars member.1 ++ ':' :: compactChars member.2

theorem compactMembers_singleton (member : String × Json) :
    compactMembers [member] = memberChars member := by
  rw [compactMembers, memberChars]

theorem compactMembers_cons_cons (first second : String × Json) (more : List (String × Json)) :
    compactMembers (first :: second :: more) =
      memberChars first ++ ',' :: compactMembers (second :: more) := by
  rw [compactMembers]
  · rw [memberChars]
  · exact nofun

/-- A member is read back, and then what stands behind it. -/
theorem readMembers_memberChars {member : String × Json} (readable : ReadsBack depth member.2)
    {held : List (String × Json)} (fresh : member.1 ∉ held.map Prod.fst) (fuel : Nat)
    {rest : List Char} (ends : Ends rest) (enough : (memberChars member).length < fuel) :
    readMembers (fuel + 1) depth held (memberChars member ++ rest) =
      match skipGaps rest with
      | ',' :: more => readMembers fuel depth (held ++ [member]) (skipGaps more)
      | '}' :: after => some (held ++ [member], after)
      | _ => none := by
  obtain ⟨name, value⟩ := member
  have named := readText_textChars name (':' :: (compactChars value ++ rest))
  have skipped := skipGaps_compactChars readable rest
  have short : (compactChars value).length < fuel := by
    simp [memberChars] at enough
    omega
  have colon : ∀ text, skipGaps (':' :: text) = ':' :: text := fun _ => rfl
  simp only [memberChars, textChars, List.cons_append, List.append_assoc, List.nil_append,
    readMembers, named, Option.bind_eq_bind, Option.bind_some, colon, skipped,
    readable.reads fuel rest short ends, String.ofList_toList, bind_of_not_mem fresh]
  rfl

/-- Members start with the quote of their first name. -/
theorem exists_compactMembers (first : String × Json) (more : List (String × Json)) :
    ∃ rest, compactMembers (first :: more) = '"' :: rest := by
  cases more with
  | nil => exact ⟨_, compactMembers_singleton first⟩
  | cons second more => exact ⟨_, compactMembers_cons_cons first second more⟩

/-- Members are read back up to the end of their object, behind those that have been read. -/
theorem readMembers_compactMembers {members : List (String × Json)} (filled : members ≠ [])
    (readable : ∀ member ∈ members, ReadsBack depth member.2) (held : List (String × Json))
    (distinct : ((held ++ members).map Prod.fst).Nodup) (fuel : Nat) (rest : List Char)
    (enough : (compactMembers members).length + 1 < fuel) :
    readMembers fuel depth held (compactMembers members ++ '}' :: rest) =
      some (held ++ members, rest) := by
  induction members generalizing fuel held with
  | nil => exact absurd rfl filled
  | cons first more inductionHypothesis =>
    obtain ⟨fuel, rfl⟩ : ∃ less, fuel = less + 1 := ⟨fuel - 1, by omega⟩
    have readableFirst := readable first List.mem_cons_self
    have fresh : first.1 ∉ held.map Prod.fst := by
      rw [List.map_append, List.map_cons] at distinct
      exact fun known => (List.nodup_append.mp distinct).2.2 _ known _ List.mem_cons_self rfl
    cases more with
    | nil =>
      rw [compactMembers_singleton] at enough ⊢
      rw [readMembers_memberChars readableFirst fresh fuel (by simp [Ends]) (by omega)]
      rfl
    | cons second more =>
      rw [compactMembers_cons_cons, List.length_append, List.length_cons] at enough
      have others := inductionHypothesis (List.cons_ne_nil second more)
        (fun member among => readable member (List.mem_cons_of_mem first among))
        (held ++ [first]) (by simpa using distinct) fuel (by omega)
      obtain ⟨behind, starts⟩ := exists_compactMembers second more
      rw [starts] at others
      rw [compactMembers_cons_cons, List.append_assoc, List.cons_append,
        readMembers_memberChars readableFirst fresh fuel (by simp [Ends]) (by omega), starts]
      refine others.trans ?_
      rw [List.append_assoc, List.singleton_append]

theorem readsBack_object {members : List (String × Json)}
    (readable : ∀ member ∈ members, ReadsBack depth member.2)
    (distinct : (members.map Prod.fst).Nodup) :
    ReadsBack (depth + 1) (.object members) where
  opens := ⟨'{', _, rfl, rfl, by decide⟩
  reads := by
    rintro (_ | fuel) rest enough -
    · exact absurd enough (Nat.not_lt_zero _)
    simp only [compactChars, List.cons_append, List.append_assoc, List.nil_append,
      List.length_cons, List.length_append, List.length_nil] at enough ⊢
    cases members with
    | nil => rfl
    | cons first more =>
      obtain ⟨behind, starts⟩ := exists_compactMembers first more
      have read := readMembers_compactMembers (List.cons_ne_nil first more) readable []
        distinct fuel rest (by omega)
      rw [starts] at read ⊢
      exact congrArg (Option.map _) read

/-- A document is read back from a line that holds its compact form. -/
theorem read?_compact {document : Json} (readable : ReadsBack 127 document) :
    read? (document.compact ++ "\n") = some document := by
  have written : (document.compact ++ "\n").toList = compactChars document ++ ['\n'] := by
    simp [compact]
  have read := readable.reads ((compactChars document ++ ['\n']).length + 1) ['\n']
    (by rw [List.length_append]; omega) (by simp [Ends])
  simp only [read?, written, skipGaps_compactChars readable, read, Option.bind_eq_bind,
    Option.bind_some]
  rfl

/-! ### One line -/

/-- Whether the compact form of a document has no line end in it. -/
def TakesOneLine (document : Json) : Prop := '\n' ∉ compactChars document

theorem takesOneLine_null : TakesOneLine .null := by
  show '\n' ∉ "null".toList
  decide

theorem takesOneLine_string (text : String) : TakesOneLine (.string text) :=
  lineFeed_not_mem_textChars text

theorem takesOneLine_whole (value : Int) : TakesOneLine (.whole value) := by
  have digits : ∀ number, '\n' ∉ Nat.toDigits 10 number := fun number member =>
    absurd (Nat.isDigit_of_mem_toDigits (by decide) (by decide) member) (by decide)
  show '\n' ∉ (toString value).toList
  rw [toList_toString_int]
  split
  · exact digits _
  · simpa using digits _

theorem takesOneLine_array {elements : List Json}
    (lines : ∀ element ∈ elements, TakesOneLine element) : TakesOneLine (.array elements) := by
  have inside : '\n' ∉ compactElements elements := by
    induction elements with
    | nil => decide
    | cons first more inductionHypothesis =>
      have firstLine := lines first List.mem_cons_self
      have otherLines := inductionHypothesis fun element member =>
        lines element (List.mem_cons_of_mem first member)
      cases more with
      | nil => rwa [compactElements]
      | cons second more =>
        rw [compactElements_cons_cons]
        simpa using ⟨firstLine, otherLines⟩
  simpa [TakesOneLine, compactChars] using inside

theorem takesOneLine_object {members : List (String × Json)}
    (lines : ∀ member ∈ members, TakesOneLine member.2) : TakesOneLine (.object members) := by
  have memberLine : ∀ member ∈ members, '\n' ∉ memberChars member := fun member among => by
    simpa [memberChars] using ⟨lineFeed_not_mem_textChars member.1, lines member among⟩
  have inside : '\n' ∉ compactMembers members := by
    induction members with
    | nil => decide
    | cons first more inductionHypothesis =>
      have firstLine := memberLine first List.mem_cons_self
      have otherLines := inductionHypothesis
        (fun member among => lines member (List.mem_cons_of_mem first among))
        fun member among => memberLine member (List.mem_cons_of_mem first among)
      cases more with
      | nil => rwa [compactMembers_singleton]
      | cons second more =>
        rw [compactMembers_cons_cons]
        simpa using ⟨firstLine, otherLines⟩
  simpa [TakesOneLine, compactChars] using inside

/-! ### Documents without fractions -/

/-- The documents without truth values and fractions that have only so many lists and objects
within one another. -/
inductive Composed (Fits : Int → Prop) : Nat → Json → Prop
  | null {depth : Nat} : Composed Fits depth .null
  | string {depth : Nat} (text : String) : Composed Fits depth (.string text)
  | whole {depth : Nat} {value : Int} : Fits value → Composed Fits depth (.whole value)
  | array {depth : Nat} {elements : List Json} :
    (∀ element ∈ elements, Composed Fits depth element) →
      Composed Fits (depth + 1) (.array elements)
  | object {depth : Nat} {members : List (String × Json)} : (members.map Prod.fst).Nodup →
    (∀ member ∈ members, Composed Fits depth member.2) →
      Composed Fits (depth + 1) (.object members)

theorem Composed.readsBack {document : Json} (composed : Composed FitsWord depth document) :
    ReadsBack depth document := by
  induction composed with
  | null => exact readsBack_null
  | string text => exact readsBack_string text
  | whole fits => exact readsBack_whole fits
  | array _ inductionHypothesis => exact readsBack_array inductionHypothesis
  | object distinct _ inductionHypothesis => exact readsBack_object inductionHypothesis distinct

theorem Composed.takesOneLine {Fits : Int → Prop} {document : Json}
    (composed : Composed Fits depth document) : TakesOneLine document := by
  induction composed with
  | null => exact takesOneLine_null
  | string text => exact takesOneLine_string text
  | whole => exact takesOneLine_whole _
  | array _ inductionHypothesis => exact takesOneLine_array inductionHypothesis
  | object _ _ inductionHypothesis => exact takesOneLine_object inductionHypothesis

end Deskbar.Json
