/-
This file says which announcements are understood, and as what. A line is cut at its first
separator, and the name in front of it decides how the payload is laid out: as a whole, as a row of
fields of which only the last one has commas in it, behind the id of a workspace, in front of a
monitor, or as an address with commas around it. A payload with too few commas is refused, and so is
one that starts with something else where an id has to be. Nothing else is refused.
-/

import Mathlib.Data.List.OfFn
import Mathlib.Data.List.TakeWhile
import Deskbar.Event.Basic
import Deskbar.Proofs.Folds
import Deskbar.Proofs.Pieces

namespace Deskbar

/-- What is left without the characters at its front that are the same one. -/
theorem Text.dropWhile_eq_iff {c : Char} {text rest : List Char} :
    text.dropWhile (· = c) = rest ↔
      (∃ count, text = List.replicate count c ++ rest) ∧ rest.head? ≠ some c := by
  constructor
  · rintro rfl
    refine ⟨⟨(text.takeWhile (· = c)).length, ?_⟩, fun here => ?_⟩
    · have same : text.takeWhile (· = c) =
          List.replicate (text.takeWhile (· = c)).length c :=
        List.eq_replicate_iff.mpr ⟨rfl, fun d member => by
          simpa using List.mem_takeWhile_imp member⟩
      rw [← same, List.takeWhile_append_dropWhile]
    · have front := List.head?_dropWhile_not (fun d => decide (d = c)) text
      rw [here] at front
      simp at front
  · rintro ⟨⟨count, rfl⟩, other⟩
    rw [List.dropWhile_append_of_pos fun d member => by
      simpa using List.eq_of_mem_replicate member]
    cases rest with
    | nil => rfl
    | cons d rest => exact List.dropWhile_cons_of_neg fun same => other (by simpa using same)

namespace EventRecord

/-! ### Fields -/

variable {record : EventRecord} {error : EventError}

/-- Whether a payload is a row of fields. Only the last one has commas in it. -/
def IsRow (payload : String) (row : List String) : Prop :=
  payload = ",".intercalate row ∧ ∀ field ∈ row.dropLast, ',' ∉ field.toList

theorem isRow_pair_iff {payload first second : String} : IsRow payload [first, second] ↔
    payload = ",".intercalate [first, second] ∧ ',' ∉ first.toList := by
  simp [IsRow]

theorem toList_intercalate_pair (first second : String) :
    (",".intercalate [first, second]).toList = first.toList ++ ',' :: second.toList := by
  rw [String.toList_intercalate]
  simp

theorem IsRow.toList {payload first second : String} (row : IsRow payload [first, second]) :
    payload.toList = first.toList ++ ',' :: second.toList := by
  rw [row.1, toList_intercalate_pair]

theorem IsRow.held {payload first second : String} (row : IsRow payload [first, second]) :
    ',' ∈ payload.toList := by
  rw [row.toList]
  simp

theorem IsRow.count {payload first second : String} (row : IsRow payload [first, second]) :
    payload.toList.count ',' = second.toList.count ',' + 1 := by
  rw [row.toList, List.count_append, List.count_cons_self,
    List.count_eq_zero.mpr (isRow_pair_iff.mp row).2, Nat.zero_add]

theorem exists_isRow {payload : String} (held : ',' ∈ payload.toList) :
    ∃ first second, IsRow payload [first, second] := by
  obtain ⟨first, second, whole, free⟩ := List.eq_append_cons_of_mem held
  refine ⟨String.ofList first, String.ofList second, isRow_pair_iff.mpr ⟨?_, ?_⟩⟩
  · rw [← String.toList_inj, toList_intercalate_pair, String.toList_ofList, String.toList_ofList,
      whole]
  · rwa [String.toList_ofList]

theorem IsRow.unique {payload first second firstToo secondToo : String}
    (row : IsRow payload [first, second]) (rowToo : IsRow payload [firstToo, secondToo]) :
    first = firstToo ∧ second = secondToo := by
  have same := Text.append_cons_inj (isRow_pair_iff.mp row).2 (isRow_pair_iff.mp rowToo).2
    (row.toList.symm.trans rowToo.toList)
  exact ⟨String.toList_inj.mp same.1, String.toList_inj.mp same.2⟩

theorem count_lt_one_iff {payload : String} :
    payload.toList.count ',' < 1 ↔ ',' ∉ payload.toList :=
  Nat.lt_one_iff.trans List.count_eq_zero

theorem fields_eq_iff {count : Nat} {row : List String} (length : row.length = count + 1) :
    record.fields (count + 1) = row ↔ IsRow record.payload row := by
  have texts : record.fields (count + 1) = row ↔
      Text.pieces ',' (count + 1) record.payload.toList = row.map String.toList := by
    rw [fields]
    constructor
    · rintro rfl
      simp
    · intro same
      rw [same]
      simp
  have joined : record.payload.toList = [','].intercalate (row.map String.toList) ↔
      record.payload = ",".intercalate row := by
    rw [← String.toList_inj, String.toList_intercalate]
    rfl
  rw [texts, Text.pieces_eq_iff count ((List.length_map _).trans length), joined,
    ← List.map_dropLast, List.forall_mem_map, IsRow]

theorem length_fields_iff (record : EventRecord) (count : Nat) :
    (record.fields (count + 1)).length = count + 1 ↔ count ≤ record.payload.toList.count ',' := by
  rw [fields, List.length_map, Text.length_pieces_eq_iff]

theorem pair_eq_ok_iff {first second : String} :
    record.pair = .ok (first, second) ↔ IsRow record.payload [first, second] := by
  rw [← show record.fields 2 = [first, second] ↔ _ from fields_eq_iff rfl, pair]
  split
  · next same =>
    rw [same]
    simp
  · next other => exact ⟨nofun, fun same => absurd same (other first second)⟩

theorem pair_eq_error_iff :
    record.pair = .error error ↔ ',' ∉ record.payload.toList ∧ error = record.missing 2 := by
  have few : (record.fields 2).length ≠ 2 ↔ ',' ∉ record.payload.toList := by
    rw [Ne, record.length_fields_iff 1, Nat.not_le, count_lt_one_iff]
  rw [← few, pair]
  split
  · next same =>
    rw [same]
    exact ⟨nofun, fun short => absurd rfl short.1⟩
  · next other =>
    have short : (record.fields 2).length ≠ 2 := fun length => by
      obtain ⟨first, second, same⟩ := List.length_eq_two.mp length
      exact other first second same
    exact ⟨fun same => ⟨short, (Except.error.inj same).symm⟩, fun same => by rw [same.2]⟩

theorem trailing_eq_ok_iff {expected : Nat} {text left right : String} :
    record.trailing expected text = .ok (left, right) ↔
      text = ",".intercalate [left, right] ∧ ',' ∉ right.toList := by
  have joined : text = ",".intercalate [left, right] ↔
      text.toList = left.toList ++ ',' :: right.toList := by
    rw [← String.toList_inj, toList_intercalate_pair]
  rw [joined, ← Text.cutAtLast_eq_some_iff, trailing, cutTrailing?]
  cases Text.cutAtLast ',' text.toList with
  | none => exact ⟨nofun, nofun⟩
  | some parts => simp [Prod.ext_iff, ← String.toList_inj]

theorem trailing_eq_error_iff {expected : Nat} {text : String} :
    record.trailing expected text = .error error ↔
      ',' ∉ text.toList ∧ error = record.missing expected := by
  rw [← Text.cutAtLast_eq_none_iff, trailing, cutTrailing?]
  cases Text.cutAtLast ',' text.toList with
  | none =>
    refine ⟨fun same => ⟨rfl, (Except.error.inj same).symm⟩, ?_⟩
    rintro ⟨-, rfl⟩
    rfl
  | some parts => exact ⟨nofun, nofun⟩

/-- The number that a field is. Blanks around it do not matter. -/
def number? (field : String) : Option Int :=
  Text.readWord64? (String.ofList (Text.trim field.toList))

theorem workspaceId_eq_ok_iff {field : String} {id : Int} :
    record.workspaceId field = .ok id ↔ number? field = some id := by
  rw [workspaceId, number?]
  split <;> simp [*]

theorem workspaceId_eq_error_iff {field : String} :
    record.workspaceId field = .error error ↔
      number? field = none ∧ error = .invalidField record.name "workspace id" field := by
  rw [workspaceId, number?]
  split <;> simp [*, eq_comm]

/-- Whether the text in front of the first comma of a payload is not a number. -/
def IsMisnumbered (payload text : String) : Prop :=
  number? text = none ∧ ∃ rest, IsRow payload [text, rest]

theorem IsMisnumbered.held {payload text : String} (wrong : IsMisnumbered payload text) :
    ',' ∈ payload.toList := by
  obtain ⟨-, rest, row⟩ := wrong
  exact row.held

theorem numbered_eq_ok_iff {id : Int} {rest : String} : record.numbered = .ok (id, rest) ↔
    ∃ text, number? text = some id ∧ IsRow record.payload [text, rest] := by
  simp only [numbered, bind_eq_ok_iff, Prod.exists, pair_eq_ok_iff, workspaceId_eq_ok_iff]
  constructor
  · rintro ⟨text, _, row, _, numbered, same⟩
    cases same
    exact ⟨text, numbered, row⟩
  · rintro ⟨text, numbered, row⟩
    exact ⟨text, rest, row, id, numbered, rfl⟩

theorem numbered_eq_error_iff : record.numbered = .error error ↔
    (∃ text, IsMisnumbered record.payload text ∧
      error = .invalidField record.name "workspace id" text) ∨
    ',' ∉ record.payload.toList ∧ error = record.missing 2 := by
  simp only [numbered, bind_eq_error_iff, Prod.exists, pair_eq_ok_iff, pair_eq_error_iff,
    workspaceId_eq_error_iff]
  constructor
  · rintro (few | ⟨text, rest, row, wrong | ⟨_, _, absurdity⟩⟩)
    · exact .inr few
    · exact .inl ⟨text, ⟨wrong.1, rest, row⟩, wrong.2⟩
    · cases absurdity
  · rintro (⟨text, ⟨wrong, rest, row⟩, same⟩ | few)
    · exact .inr ⟨text, rest, row, .inl ⟨wrong, same⟩⟩
    · exact .inl few

/-! ### Lines -/

/-- Whether a record is made of the parts of a line around its first separator. Blanks around the
line and around the parts do not matter. -/
def IsCut (line : String) (record : EventRecord) : Prop :=
  ∃ before after, Text.trim line.toList = before ++ separator.toList ++ after ∧
    (∀ place < before.length, ¬ separator.toList <+: (Text.trim line.toList).drop place) ∧
    record = ⟨String.ofList (Text.trim before), String.ofList (Text.trim after)⟩

theorem ofLine_eq_ok_iff {line : String} : ofLine line = .ok record ↔ IsCut line record := by
  have nonempty : separator.toList ≠ [] := by decide
  simp only [IsCut, ← and_assoc, ← Text.cutAtFirst_eq_some_iff nonempty]
  rw [ofLine]
  split
  · next name payload cut =>
    rw [cut]
    simp [eq_comm]
  · next cut =>
    rw [cut]
    exact ⟨nofun, fun ⟨_, _, found, _⟩ => nomatch found⟩

theorem ofLine_eq_error_iff {line : String} : ofLine line = .error error ↔
    ¬ separator.toList <:+: Text.trim line.toList ∧
      error = .missingSeparator (String.ofList (Text.trim line.toList)) := by
  rw [← Text.cutAtFirst_eq_none_iff (show separator.toList ≠ [] by decide), ofLine]
  split
  · next cut =>
    rw [cut]
    exact ⟨nofun, nofun⟩
  · next cut =>
    rw [cut]
    exact ⟨fun same => ⟨rfl, (Except.error.inj same).symm⟩, fun same => by rw [same.2]⟩

end EventRecord

namespace Event

/-! ### Bare addresses -/

/-- Whether a payload is an address with nothing but commas around it. -/
def IsBare (payload address : String) : Prop :=
  (∃ before after, payload.toList =
      List.replicate before ',' ++ (address.toList ++ List.replicate after ',')) ∧
    address.toList.head? ≠ some ',' ∧ address.toList.getLast? ≠ some ','

theorem trimCommas_eq_iff {payload address : String} :
    trimCommas payload = address ↔ IsBare payload address := by
  have trimmed : trimCommas payload = address ↔
      (payload.toList.dropWhile (· = ',')).reverse.dropWhile (· = ',') =
        address.toList.reverse := by
    rw [trimCommas, ← String.toList_inj, String.toList_ofList, List.reverse_eq_iff]
  have mirrored : ∀ text : List Char, (∃ after, text.reverse =
      List.replicate after ',' ++ address.toList.reverse) ↔
      ∃ after, text = address.toList ++ List.replicate after ',' := fun text =>
    exists_congr fun after => by
      rw [List.reverse_eq_iff, List.reverse_append, List.reverse_reverse, List.reverse_replicate]
  rw [trimmed, Text.dropWhile_eq_iff, mirrored, List.head?_reverse]
  constructor
  · rintro ⟨⟨after, rest⟩, lastOther⟩
    obtain ⟨⟨before, whole⟩, firstOther⟩ := Text.dropWhile_eq_iff.mp rest
    refine ⟨⟨before, after, whole⟩, fun here => firstOther ?_, lastOther⟩
    rw [List.head?_append, here, Option.some_or]
  · rintro ⟨⟨before, after, whole⟩, firstOther, lastOther⟩
    refine ⟨?_, lastOther⟩
    cases empty : address.toList with
    | nil =>
      -- Nothing is left of commas alone. They all count as those in front.
      refine ⟨0, Text.dropWhile_eq_iff.mpr ⟨⟨before + after, ?_⟩, nofun⟩⟩
      rw [whole, empty, List.replicate_add]
      simp
    | cons c others =>
      rw [empty] at whole firstOther
      exact ⟨after, Text.dropWhile_eq_iff.mpr ⟨⟨before, whole⟩, firstOther⟩⟩

/-! ### Layouts -/

/-- How a payload is laid out, with the event that its fields tell of. -/
inductive Layout where
  /-- The payload as it is. -/
  | whole (event : String → Event)
  /-- An address with commas around it that mean nothing, or no address. -/
  | bare (event : Option String → Event)
  /-- A row of fields. Only the last one has commas in it. -/
  | row (commas : Nat) (event : (Fin (commas + 1) → String) → Event)
  /-- The id of a workspace, and a field that may have commas in it. -/
  | numbered (event : Int → String → Event)
  /-- A field that may have commas in it, and one that has none. -/
  | trailing (event : String → String → Event)
  /-- The id of a workspace, a field that may have commas in it, and one that has none. -/
  | numberedTrailing (event : Int → String → String → Event)

namespace Layout

/-- The layout of the payload under a name. -/
def ofName : String → Layout
  | "workspace" => .whole fun name => .workspace (.activated name)
  | "workspacev2" => .row 1 fun field => .workspace (.activated (field 1))
  | "createworkspace" => .whole fun name => .workspace (.created none name)
  | "createworkspacev2" => .numbered fun id name => .workspace (.created (some id) name)
  | "destroyworkspace" => .whole fun name => .workspace (.destroyed none name)
  | "destroyworkspacev2" => .numbered fun id name => .workspace (.destroyed (some id) name)
  | "renameworkspace" => .numbered fun id name => .workspace (.renamed id name)
  | "moveworkspace" => .trailing fun name monitor => .workspace (.moved name monitor)
  | "moveworkspacev2" => .numberedTrailing fun _ name monitor => .workspace (.moved name monitor)
  | "activespecial" => .trailing .specialActivated
  | "focusedmon" => .row 1 fun field => .monitorFocused (field 0) (field 1)
  | "openwindow" =>
    .row 3 fun field => .window (.opened (field 0) (field 1) (field 2) (field 3))
  | "closewindow" => .whole fun address => .window (.closed address)
  | "movewindow" => .row 1 fun field => .window (.moved (field 0) (field 1))
  | "movewindowv2" => .row 2 fun field => .window (.moved (field 0) (field 2))
  | "windowtitle" => .whole fun address => .window (.retitled address none)
  | "windowtitlev2" => .row 1 fun field => .window (.retitled (field 0) (some (field 1)))
  | "urgent" => .whole fun address => .window (.urgent address)
  | "activewindowv2" => .bare fun address => .window (.focused address)
  | "configreloaded" => .whole fun _ => .configReloaded
  | name => .whole (.other name)

/-- Whether a payload that is laid out in a way spells an event. -/
def Spells (payload : String) (event : Event) : Layout → Prop
  | .whole make => event = make payload
  | .bare make =>
    ∃ address, IsBare payload address ∧
      event = make (if address = "" then none else some address)
  | .row commas make =>
    ∃ field : Fin (commas + 1) → String, EventRecord.IsRow payload (List.ofFn field) ∧
      event = make field
  | .numbered make =>
    ∃ text id rest, EventRecord.number? text = some id ∧ EventRecord.IsRow payload [text, rest] ∧
      event = make id rest
  | .trailing make =>
    ∃ left right, payload = ",".intercalate [left, right] ∧ ',' ∉ right.toList ∧
      event = make left right
  | .numberedTrailing make =>
    ∃ text id left right, EventRecord.number? text = some id ∧
      payload = ",".intercalate [text, left, right] ∧ ',' ∉ text.toList ∧ ',' ∉ right.toList ∧
      event = make id left right

/-- How many commas a layout needs. -/
def commas : Layout → Nat
  | .whole _ | .bare _ => 0
  | .row commas _ => commas
  | .numbered _ | .trailing _ => 1
  | .numberedTrailing _ => 2

/-- Whether a layout starts with the id of a workspace. -/
def isNumbered : Layout → Bool
  | .numbered _ | .numberedTrailing _ => true
  | .whole _ | .bare _ | .row _ _ | .trailing _ => false

/-- How many fields the error for a payload without enough commas asks for. Behind an id, a monitor
is not missed as long as the id has no comma behind it. -/
def asked (payload : String) : Layout → Nat
  | .numberedTrailing _ => if ',' ∈ payload.toList then 3 else 2
  | layout => layout.commas + 1

/-- Whether a record that is laid out in a way is refused with an error. -/
inductive Refuses (record : EventRecord) (layout : Layout) : EventError → Prop
  | invalidField {text : String} (numbered : layout.isNumbered = true)
    (wrong : EventRecord.IsMisnumbered record.payload text) :
    Refuses record layout (.invalidField record.name "workspace id" text)
  | missingFields (few : record.payload.toList.count ',' < layout.commas)
    (right : layout.isNumbered = true → ∀ text, ¬ EventRecord.IsMisnumbered record.payload text) :
    Refuses record layout (record.missing (layout.asked record.payload))

/-- Reads a payload by its layout. -/
def read (record : EventRecord) : Layout → Except EventError Event
  | .whole event => .ok (event record.payload)
  | .bare event => .ok (event (focusedAddress record.payload))
  | .row commas event =>
    if enough : (record.fields (commas + 1)).length = commas + 1 then
      .ok (event fun place => (record.fields (commas + 1)).get (place.cast enough.symm))
    else .error (record.missing (commas + 1))
  | .numbered event => do
    let (id, rest) ← record.numbered
    return event id rest
  | .trailing event => do
    let (left, right) ← record.trailing 2 record.payload
    return event left right
  | .numberedTrailing event => do
    let (id, rest) ← record.numbered
    let (left, right) ← record.trailing 3 rest
    return event id left right

variable {record : EventRecord}

theorem read_row_of_fields {commas : Nat} {event : (Fin (commas + 1) → String) → Event}
    {row : List String} (same : record.fields (commas + 1) = row)
    (length : row.length = commas + 1) :
    (Layout.row commas event).read record =
      .ok (event fun place => row.get (place.cast length.symm)) := by
  subst same
  exact dif_pos length

theorem read_row_of_few {commas : Nat} {event : (Fin (commas + 1) → String) → Event}
    (few : (record.fields (commas + 1)).length ≠ commas + 1) :
    (Layout.row commas event).read record = .error (record.missing (commas + 1)) :=
  dif_neg few

theorem read_pair (event : String → String → Event) :
    (Layout.row 1 fun field => event (field 0) (field 1)).read record =
      record.pair.bind fun parts => .ok (event parts.1 parts.2) := by
  rw [EventRecord.pair]
  split
  · next same => exact read_row_of_fields same rfl
  · next other =>
    refine read_row_of_few fun length => ?_
    obtain ⟨first, second, same⟩ := List.length_eq_two.mp length
    exact other first second same

theorem read_eq_ok_iff {layout : Layout} {event : Event} :
    layout.read record = .ok event ↔ layout.Spells record.payload event := by
  cases layout with
  | whole make => exact (Iff.of_eq (Except.ok.injEq ..)).trans eq_comm
  | bare make =>
    have made : read record (.bare make) = .ok event ↔
        event = make (focusedAddress record.payload) :=
      (Iff.of_eq (Except.ok.injEq ..)).trans eq_comm
    rw [made, focusedAddress]
    simp only [String.isEmpty_iff, Spells]
    constructor
    · exact fun same => ⟨_, trimCommas_eq_iff.mp rfl, same⟩
    · rintro ⟨address, bare, same⟩
      rw [trimCommas_eq_iff.mpr bare, same]
  | row commas make =>
    have rows : Spells record.payload event (.row commas make) ↔
        ∃ field, record.fields (commas + 1) = List.ofFn field ∧ event = make field := by
      simp only [Spells, EventRecord.fields_eq_iff List.length_ofFn]
    rw [rows]
    constructor
    · intro made
      by_cases enough : (record.fields (commas + 1)).length = commas + 1
      · rw [read_row_of_fields rfl enough] at made
        refine ⟨_, ?_, (Except.ok.inj made).symm⟩
        refine List.ext_get (enough.trans List.length_ofFn.symm) fun place inFields inRow => ?_
        rw [List.get_ofFn]
        rfl
      · cases (read_row_of_few enough).symm.trans made
    · rintro ⟨field, same, rfl⟩
      rw [read_row_of_fields same List.length_ofFn]
      exact congrArg (fun row => Except.ok (make row)) (funext fun place => List.get_ofFn field _)
  | numbered make =>
    simp only [read, bind_eq_ok_iff, Prod.exists, EventRecord.numbered_eq_ok_iff, Spells]
    constructor
    · rintro ⟨id, rest, ⟨text, numbered, row⟩, same⟩
      exact ⟨text, id, rest, numbered, row, (Except.ok.inj same).symm⟩
    · rintro ⟨text, id, rest, numbered, row, rfl⟩
      exact ⟨id, rest, ⟨text, numbered, row⟩, rfl⟩
  | trailing make =>
    simp only [read, bind_eq_ok_iff, Prod.exists, EventRecord.trailing_eq_ok_iff, Spells]
    constructor
    · rintro ⟨left, right, ⟨whole, free⟩, same⟩
      exact ⟨left, right, whole, free, (Except.ok.inj same).symm⟩
    · rintro ⟨left, right, whole, free, rfl⟩
      exact ⟨left, right, ⟨whole, free⟩, rfl⟩
  | numberedTrailing make =>
    simp only [read, bind_eq_ok_iff, Prod.exists, EventRecord.numbered_eq_ok_iff,
      EventRecord.trailing_eq_ok_iff, EventRecord.isRow_pair_iff, Spells]
    constructor
    · rintro ⟨id, rest, ⟨text, numbered, whole, free⟩, left, right, ⟨split, rightFree⟩, same⟩
      rw [split] at whole
      exact ⟨text, id, left, right, numbered, whole.trans (by simp), free, rightFree,
        (Except.ok.inj same).symm⟩
    · rintro ⟨text, id, left, right, numbered, whole, free, rightFree, rfl⟩
      exact ⟨id, ",".intercalate [left, right], ⟨text, numbered, whole.trans (by simp), free⟩,
        left, right, ⟨rfl, rightFree⟩, rfl⟩

/-- A payload with an id, a field and a monitor is read in two cuts. The id is looked at after the
first one, so one that is wrong is refused before the monitor is missed. -/
theorem read_numberedTrailing_eq_error_iff {make : Int → String → String → Event}
    {error : EventError} : read record (.numberedTrailing make) = .error error ↔
      Refuses record (.numberedTrailing make) error := by
  have failed : read record (.numberedTrailing make) = .error error ↔
      record.numbered = .error error ∨ ∃ id rest, record.numbered = .ok (id, rest) ∧
        record.trailing 3 rest = .error error := by
    simp only [read, bind_eq_error_iff, Prod.exists]
    exact or_congr_right (exists_congr fun id => exists_congr fun rest =>
      and_congr_right fun _ => or_iff_left nofun)
  rw [failed, EventRecord.numbered_eq_error_iff]
  constructor
  · rintro ((⟨text, wrong, rfl⟩ | ⟨absent, rfl⟩) | ⟨id, rest, understood, missing⟩)
    · exact .invalidField rfl wrong
    · have two : asked record.payload (.numberedTrailing make) = 2 := if_neg absent
      rw [← two]
      exact .missingFields (Nat.lt_succ_of_lt (EventRecord.count_lt_one_iff.mpr absent))
        fun _ text wrong => absent wrong.held
    · obtain ⟨text, numbered, row⟩ := EventRecord.numbered_eq_ok_iff.mp understood
      obtain ⟨free, rfl⟩ := EventRecord.trailing_eq_error_iff.mp missing
      have three : asked record.payload (.numberedTrailing make) = 3 := if_pos row.held
      rw [← three]
      -- A payload starts in one way only, so an id that is right is not wrong as well.
      refine .missingFields ?_ fun _ other wrong => ?_
      · rw [row.count]
        exact Nat.succ_lt_succ (EventRecord.count_lt_one_iff.mpr free)
      · obtain ⟨notNumbered, _, rowToo⟩ := wrong
        rw [(row.unique rowToo).1, notNumbered] at numbered
        cases numbered
  · rintro (⟨-, wrong⟩ | ⟨few, right⟩)
    · exact .inl (.inl ⟨_, wrong, rfl⟩)
    · by_cases held : ',' ∈ record.payload.toList
      · obtain ⟨text, rest, row⟩ := EventRecord.exists_isRow held
        cases number : EventRecord.number? text with
        | none => exact absurd ⟨number, rest, row⟩ (right rfl text)
        | some id =>
          refine .inr ⟨id, rest, EventRecord.numbered_eq_ok_iff.mpr ⟨text, number, row⟩, ?_⟩
          refine EventRecord.trailing_eq_error_iff.mpr ⟨?_, congrArg _ (if_pos held)⟩
          rw [row.count] at few
          exact EventRecord.count_lt_one_iff.mp (Nat.lt_of_succ_lt_succ few)
      · exact .inl (.inr ⟨held, congrArg _ (if_neg held)⟩)

theorem read_eq_error_iff {layout : Layout} {error : EventError} :
    layout.read record = .error error ↔ Refuses record layout error := by
  cases layout with
  | whole make => exact ⟨nofun, fun | .missingFields few _ => absurd few (Nat.not_lt_zero _)⟩
  | bare make => exact ⟨nofun, fun | .missingFields few _ => absurd few (Nat.not_lt_zero _)⟩
  | row commas make =>
    by_cases enough : (record.fields (commas + 1)).length = commas + 1
    · rw [read_row_of_fields rfl enough]
      refine ⟨nofun, fun | .missingFields few _ => ?_⟩
      exact absurd ((record.length_fields_iff commas).mp enough) (Nat.not_le.mpr few)
    · rw [read_row_of_few enough]
      rw [record.length_fields_iff, Nat.not_le] at enough
      constructor
      · rintro ⟨⟩
        exact .missingFields enough nofun
      · rintro (_ | _)
        · contradiction
        · rfl
  | numbered make =>
    have failed : read record (.numbered make) = .error error ↔
        record.numbered = .error error := by
      simp only [read, bind_eq_error_iff]
      exact or_iff_left nofun
    rw [failed, EventRecord.numbered_eq_error_iff]
    constructor
    · rintro (⟨text, wrong, rfl⟩ | ⟨absent, rfl⟩)
      · exact .invalidField rfl wrong
      · exact .missingFields (EventRecord.count_lt_one_iff.mpr absent)
          fun _ text wrong => absent wrong.held
    · rintro (⟨-, wrong⟩ | ⟨few, -⟩)
      · exact .inl ⟨_, wrong, rfl⟩
      · exact .inr ⟨EventRecord.count_lt_one_iff.mp few, rfl⟩
  | trailing make =>
    have failed : read record (.trailing make) = .error error ↔
        record.trailing 2 record.payload = .error error := by
      simp only [read, bind_eq_error_iff]
      exact or_iff_left nofun
    rw [failed, EventRecord.trailing_eq_error_iff]
    constructor
    · rintro ⟨absent, rfl⟩
      exact .missingFields (EventRecord.count_lt_one_iff.mpr absent) nofun
    · rintro (_ | ⟨few, -⟩)
      · contradiction
      · exact ⟨EventRecord.count_lt_one_iff.mp few, rfl⟩
  | numberedTrailing make => exact read_numberedTrailing_eq_error_iff

end Layout

/-- An announcement is read by the layout of its name. -/
theorem ofRecord_eq (record : EventRecord) :
    ofRecord record = (Layout.ofName record.name).read record := by
  obtain ⟨name, payload⟩ := record
  unfold ofRecord
  dsimp only
  split
  -- Only rows of fields are read in another way than their layouts, by a pattern for each length.
  case h_2 => exact (Layout.read_pair fun _ name => .workspace (.activated name)).symm
  case h_11 => exact (Layout.read_pair .monitorFocused).symm
  case h_12 =>
    symm
    split
    · next same => exact Layout.read_row_of_fields same rfl
    · next other =>
      refine Layout.read_row_of_few fun length => ?_
      obtain ⟨address, rest, split⟩ := List.exists_of_length_succ _ length
      rw [split] at length
      obtain ⟨target, windowClass, title, same⟩ := List.length_eq_three.mp (Nat.succ.inj length)
      exact other address target windowClass title (split.trans (congrArg _ same))
  case h_14 => exact (Layout.read_pair fun address target => .window (.moved address target)).symm
  case h_15 =>
    symm
    split
    · next same => exact Layout.read_row_of_fields same rfl
    · next other =>
      refine Layout.read_row_of_few fun length => ?_
      obtain ⟨address, between, target, same⟩ := List.length_eq_three.mp length
      exact other address between target same
  case h_17 =>
    exact (Layout.read_pair fun address title => .window (.retitled address (some title))).symm
  case h_21 =>
    rw [Layout.ofName]
    · rfl
    all_goals assumption
  all_goals rfl

/-- The names of announcements that start with the id of a workspace. -/
def numberedNames : List String :=
  ["createworkspacev2", "destroyworkspacev2", "renameworkspace", "moveworkspacev2"]

/-- How many commas the payload under a name needs. -/
def commasNeeded : String → Nat
  | "openwindow" => 3
  | "movewindowv2" | "moveworkspacev2" => 2
  | "workspacev2" | "createworkspacev2" | "destroyworkspacev2" | "renameworkspace"
  | "moveworkspace" | "activespecial" | "focusedmon" | "movewindow" | "windowtitlev2" => 1
  | _ => 0

theorem isNumbered_ofName (name : String) :
    (Layout.ofName name).isNumbered = true ↔ name ∈ numberedNames := by
  unfold Layout.ofName
  split
  case h_21 => exact ⟨nofun, fun member => by simp_all [numberedNames]⟩
  all_goals simp [Layout.isNumbered, numberedNames]

theorem commas_ofName (name : String) : (Layout.ofName name).commas = commasNeeded name := by
  unfold Layout.ofName
  split
  case h_21 =>
    rw [commasNeeded]
    · rfl
    all_goals assumption
  all_goals rfl

/-- A line without a separator is refused, and any other is cut at its first one. A record is
refused where its payload starts with something else than the id its name asks for, and where it has
fewer commas than its name needs. Any other record is understood as the event that its payload
spells. -/
theorem understood_iff_spelled :
    (∀ line error, EventRecord.ofLine line = .error error ↔
      ¬ EventRecord.separator.toList <:+: Text.trim line.toList ∧
        error = .missingSeparator (String.ofList (Text.trim line.toList))) ∧
    (∀ line record, EventRecord.ofLine line = .ok record ↔ EventRecord.IsCut line record) ∧
    (∀ record error, ofRecord record = .error error ↔
      (Layout.ofName record.name).Refuses record error) ∧
    (∀ name, ((Layout.ofName name).isNumbered = true ↔ name ∈ numberedNames) ∧
      (Layout.ofName name).commas = commasNeeded name) ∧
    ∀ record event, ofRecord record = .ok event ↔
      (Layout.ofName record.name).Spells record.payload event := by
  refine ⟨fun _ _ => EventRecord.ofLine_eq_error_iff, fun _ _ => EventRecord.ofLine_eq_ok_iff,
    fun record error => ?_, fun name => ⟨isNumbered_ofName name, commas_ofName name⟩,
    fun record event => ?_⟩
  · rw [ofRecord_eq, Layout.read_eq_error_iff]
  · rw [ofRecord_eq, Layout.read_eq_ok_iff]

example : ofLine "openwindow>>5612a0c0,2,firefox,Docs, Sheets" =
    .ok (.window (.opened "5612a0c0" "2" "firefox" "Docs, Sheets")) := by decide +kernel

/-- The address of the window with the focus is not the whole payload. -/
theorem not_focused_whole : ¬ ∀ payload : String,
    ofRecord ⟨"activewindowv2", payload⟩ = .ok (.window (.focused (some payload))) :=
  fun always => absurd (always "5612a0c0,") (by decide)

end Event

end Deskbar
