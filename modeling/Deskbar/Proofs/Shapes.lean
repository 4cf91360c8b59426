/-
This file describes records by tables of their fields. A field has a name, a kind of values, and in
most cases the value that it has where a document leaves it out. Which documents spell a record
follows from the table alone. A reader that reads those documents and no others has every other
property that is asked of it: it passes over what spells nothing, it does not mind the order of the
members or those that it does not know, and it reads back what is written out.
-/

import Mathlib.Algebra.Order.Ring.Int
import Mathlib.Data.List.Forall2
import Mathlib.Data.List.Nodup
import Deskbar.Connection

namespace Deskbar

/-! ### Members -/

namespace Json

variable {members others : List (String × Json)} {name : String}

theorem memberOf_cons (member : String × Json) :
    memberOf (member :: members) name =
      if member.1 = name then some member.2 else memberOf members name := by
  unfold memberOf
  rw [List.find?_cons]
  by_cases same : member.1 = name
  · rw [if_pos same, decide_eq_true same]
    rfl
  · rw [if_neg same, decide_eq_false same]

theorem memberOf_eq_some_iff (distinct : (members.map Prod.fst).Nodup) {value : Json} :
    memberOf members name = some value ↔ (name, value) ∈ members := by
  induction members with
  | nil => simp [memberOf]
  | cons member members inductionHypothesis =>
    obtain ⟨first, document⟩ := member
    obtain ⟨fresh, distinct⟩ := List.nodup_cons.mp distinct
    rw [memberOf_cons, List.mem_cons]
    by_cases same : first = name
    · subst same
      have absent : (first, value) ∉ members := fun held =>
        fresh (List.mem_map.mpr ⟨(first, value), held, rfl⟩)
      simp [absent, eq_comm]
    · simp [same, Ne.symm same, inductionHypothesis distinct]

theorem memberOf_eq_of_perm (distinct : (members.map Prod.fst).Nodup)
    (same : members.Perm others) : memberOf members name = memberOf others name := by
  refine Option.ext fun value => ?_
  rw [memberOf_eq_some_iff distinct,
    memberOf_eq_some_iff ((same.map Prod.fst).nodup_iff.mp distinct), same.mem_iff]

theorem memberOf_filter (keeps : String → Bool) (kept : keeps name = true) :
    memberOf (members.filter fun member => keeps member.1) name = memberOf members name := by
  induction members with
  | nil => rfl
  | cons member members inductionHypothesis =>
    rw [List.filter_cons, memberOf_cons, ← inductionHypothesis]
    split
    · exact memberOf_cons member
    · rename_i dropped
      rw [if_neg fun same => dropped (by rwa [same])]

end Json

/-! ### Kinds of values -/

/-- A kind of values in documents: which documents spell a value, which values there are, and how
a value is written out. -/
structure Kind (Value : Type) where
  Spells : Json → Value → Prop
  Fits : Value → Prop
  write : Value → Json
  spells_write : ∀ value, Fits value → Spells (write value) value
  fits_of_spells : ∀ document value, Spells document value → Fits value

namespace Kind

variable {Value : Type}

/-- The values that are spelled in one way each. -/
def plain (write : Value → Json) (Fits : Value → Prop) : Kind Value where
  Spells document value := document = write value ∧ Fits value
  Fits := Fits
  write := write
  spells_write _ fits := ⟨rfl, fits⟩
  fits_of_spells _ _ spelled := spelled.2

/-- The whole numbers of 64 bits. -/
def word64 : Kind Int := plain Json.whole fun value => -2 ^ 63 ≤ value ∧ value < 2 ^ 63

/-- The whole numbers of 32 bits. -/
def word32 : Kind Int := plain Json.whole fun value => -2 ^ 31 ≤ value ∧ value < 2 ^ 31

/-- The numbers of things, of 32 bits. -/
def count : Kind Nat := plain (fun value => Json.whole value) fun value => value < 2 ^ 32

/-- The truth values. -/
def truth : Kind Bool := plain Json.bool fun _ => True

/-- The texts. -/
def text : Kind String := plain Json.string fun _ => True

/-- The texts, and null for none. -/
def nullableText : Kind (Option String) := plain Json.text? fun _ => True

/-- The value that a field of a kind holds, given what a document offers for it, if anything. -/
def Holds (kind : Kind Value) (default? : Option Value) : Option Json → Value → Prop
  | none, value => default? = some value
  | some document, value => kind.Spells document value

/-- Whether a reader finds in a document the value it spells, and in other documents none. -/
def IsReadBy (kind : Kind Value) (read? : Json → Option Value) : Prop :=
  ∀ document value, read? document = some value ↔ kind.Spells document value

theorem isReadBy_whole {fits : Int → Bool} {Fits : Int → Prop}
    (agree : ∀ value, fits value = true ↔ Fits value) :
    (plain Json.whole Fits).IsReadBy (Json.readWhole? fits) := by
  intro document value
  constructor
  · intro read
    unfold Json.readWhole? at read
    split at read
    · split at read
      · cases read
        exact ⟨rfl, (agree _).mp ‹_›⟩
      · cases read
    · cases read
  · rintro ⟨rfl, inside⟩
    exact if_pos ((agree value).mpr inside)

theorem cast_bitRange (bits : Nat) : (Text.bitRange bits : Int) = 2 ^ bits :=
  Int.natCast_pow 2 bits

theorem fitsSigned_iff {bits : Nat} {value : Int} :
    Text.fitsSigned bits value = true ↔ -2 ^ bits ≤ value ∧ value < 2 ^ bits := by
  unfold Text.fitsSigned
  rw [Bool.and_eq_true, decide_eq_true_iff, decide_eq_true_iff, cast_bitRange]

theorem word64_isReadBy : word64.IsReadBy Json.readWord64? :=
  isReadBy_whole fun _ => fitsSigned_iff

theorem word32_isReadBy : word32.IsReadBy Json.readWord32? :=
  isReadBy_whole fun _ => fitsSigned_iff

theorem count_isReadBy : count.IsReadBy Json.readCount? := by
  intro document value
  have whole : (plain Json.whole fun value => 0 ≤ value ∧ value < 2 ^ 32).IsReadBy
      (Json.readWhole? fun value => 0 ≤ value && value < Text.bitRange 32) :=
    isReadBy_whole fun value => by
      rw [Bool.and_eq_true, decide_eq_true_iff, decide_eq_true_iff, cast_bitRange]
  unfold Json.readCount?
  rw [Option.map_eq_some_iff]
  constructor
  · rintro ⟨number, read, rfl⟩
    obtain ⟨rfl, least, bound⟩ := (whole document number).mp read
    exact ⟨congrArg Json.whole (Int.toNat_of_nonneg least).symm, by omega⟩
  · rintro ⟨rfl, bound⟩
    exact ⟨value, (whole _ _).mpr ⟨rfl, by omega, by omega⟩, Int.toNat_natCast value⟩

theorem truth_isReadBy : truth.IsReadBy Json.readTruth? := by
  rintro (_ | _ | _ | _ | _ | _) value <;> simp [truth, plain, Json.readTruth?]

theorem text_isReadBy : text.IsReadBy Json.readText? := by
  rintro (_ | _ | _ | _ | _ | _) value <;> simp [text, plain, Json.readText?]

theorem nullableText_isReadBy : nullableText.IsReadBy Json.readNullableText? := by
  rintro (_ | _ | _ | _ | _ | _) (_ | value) <;>
    simp [nullableText, plain, Json.readNullableText?, Json.text?]

/-- Whether null spells a value of a kind. -/
def TakesNull (kind : Kind Value) : Prop := ∃ value, kind.Spells .null value

theorem plain_takesNull_iff {write : Value → Json} {Fits : Value → Prop} :
    (plain write Fits).TakesNull ↔ ∃ value, .null = write value ∧ Fits value := Iff.rfl

theorem nullableText_takesNull : nullableText.TakesNull := ⟨none, rfl, trivial⟩

section Fields

variable {kind : Kind Value} {read? : Json → Option Value}

theorem required_eq_some_iff (reads : kind.IsReadBy read?) {offer : Option Json} {value : Value} :
    Json.required read? offer = some value ↔ kind.Holds none offer value := by
  cases offer with
  | none => simp [Json.required, Holds]
  | some document => exact reads document value

theorem optional_eq_some_iff (reads : kind.IsReadBy read?) {default : Value} {offer : Option Json}
    {value : Value} :
    Json.optional default read? offer = some value ↔ kind.Holds (some default) offer value := by
  cases offer with
  | none => rfl
  | some document => exact reads document value

end Fields

end Kind

/-! ### Tables of fields -/

/-- A field of a record. -/
structure Field (Record : Type) where
  name : String
  {Value : Type}
  kind : Kind Value
  /-- What the field is where a document leaves it out. Without that, no document may do so. -/
  default? : Option Value
  get : Record → Value

/-- What a field holds, given what a document offers for it. -/
abbrev Field.Holds {Record : Type} (field : Field Record) : Option Json → field.Value → Prop :=
  field.kind.Holds field.default?

/-- The table of the fields of a record, in their order. -/
structure Shape (Record : Type) where
  fields : List (Field Record)
  distinct : (fields.map Field.name).Nodup
  defaults_fit : ∀ field ∈ fields, ∀ value, field.default? = some value → field.kind.Fits value
  /-- The fields do not depend on one another. -/
  combine : ∀ Holds : (field : Field Record) → field.Value → Prop,
    (∀ field ∈ fields, ∃ value, Holds field value) →
      ∃ record, ∀ field ∈ fields, Holds field (field.get record)

namespace Shape

variable {Record : Type} (shape : Shape Record)

/-- The documents that spell a record: objects, in which a field goes by its name, and arrays, in
which it goes by its place and the last ones may be left out. -/
inductive Spells : Json → Record → Prop
  | object {members : List (String × Json)} {record : Record} :
    (∀ field ∈ shape.fields, field.Holds (Json.memberOf members field.name) (field.get record)) →
      Spells (.object members) record
  | array {elements : List Json} {record : Record} : elements.length ≤ shape.fields.length →
    (∀ (place : Nat) (field : Field Record), shape.fields[place]? = some field →
      field.Holds elements[place]? (field.get record)) →
      Spells (.array elements) record

/-- The object that spells out every field of a record. -/
def write (record : Record) : Json :=
  .object (shape.fields.map fun field => (field.name, field.kind.write (field.get record)))

variable {shape}

theorem memberOf_write {field : Field Record} (among : field ∈ shape.fields) (record : Record) :
    Json.memberOf
        (shape.fields.map fun field => (field.name, field.kind.write (field.get record)))
        field.name =
      some (field.kind.write (field.get record)) :=
  (Json.memberOf_eq_some_iff (by rw [List.map_map]; exact shape.distinct)).mpr
    (List.mem_map_of_mem among)

theorem spells_write (record : Record)
    (fits : ∀ field ∈ shape.fields, field.kind.Fits (field.get record)) :
    shape.Spells (shape.write record) record := by
  refine .object fun field among => ?_
  rw [memberOf_write among]
  exact field.kind.spells_write _ (fits field among)

theorem holds_fits {field : Field Record} (among : field ∈ shape.fields) {offer : Option Json}
    {value : field.Value} (held : field.Holds offer value) : field.kind.Fits value := by
  cases offer with
  | none => exact shape.defaults_fit field among value held
  | some document => exact field.kind.fits_of_spells document value held

theorem Spells.fits {document : Json} {record : Record} (spelled : shape.Spells document record) :
    ∀ field ∈ shape.fields, field.kind.Fits (field.get record) := by
  intro field among
  cases spelled with
  | object held => exact holds_fits among (held field among)
  | array short held =>
    obtain ⟨place, found⟩ := List.mem_iff_getElem?.mp among
    exact holds_fits among (held place field found)

/-- Records as values of fields of larger records. -/
def kind (shape : Shape Record) : Kind Record where
  Spells := shape.Spells
  Fits record := ∀ field ∈ shape.fields, field.kind.Fits (field.get record)
  write := shape.write
  spells_write := spells_write
  fits_of_spells _ _ := Spells.fits

theorem kind_not_takesNull : ¬ shape.kind.TakesNull := fun ⟨_, spelled⟩ => nomatch spelled

theorem getElem_padded {elements : List Json} {size place : Nat}
    (inside : place < (elements.map some ++ List.replicate (size - elements.length) none).length) :
    (elements.map some ++ List.replicate (size - elements.length) none)[place] =
      elements[place]? := by
  rw [List.getElem_append]
  split
  · rename_i early
    rw [List.getElem_map, List.getElem?_eq_getElem]
  · rename_i late
    rw [List.getElem_replicate, List.getElem?_eq_none]
    simpa using late

/-- Whether a document spells a record is decided by what it offers to the fields. -/
theorem spells_iff {document : Json} {record : Record} :
    shape.Spells document record ↔
      ∃ offers, document.fields? (shape.fields.map Field.name) = some offers ∧
        List.Forall₂ (fun field offer => field.Holds offer (field.get record)) shape.fields
          offers := by
  constructor
  · rintro (held | ⟨short, held⟩)
    · refine ⟨_, rfl, ?_⟩
      rw [List.map_map, List.forall₂_map_right_iff]
      exact List.forall₂_same.mpr held
    · refine ⟨_, if_pos (by rwa [List.length_map]), ?_⟩
      refine List.forall₂_iff_get.mpr ⟨by simp; omega, fun place inside offered => ?_⟩
      rw [List.get_eq_getElem, List.get_eq_getElem, getElem_padded]
      exact held place _ (List.getElem?_eq_getElem inside)
  · rintro ⟨offers, given, held⟩
    cases document with
    | object members =>
      cases given
      rw [List.map_map, List.forall₂_map_right_iff] at held
      exact .object (List.forall₂_same.mp held)
    | array elements =>
      simp only [Json.fields?, Option.ite_none_right_eq_some, List.length_map] at given
      obtain ⟨short, ⟨⟩⟩ := given
      obtain ⟨-, held⟩ := List.forall₂_iff_get.mp held
      refine .array short fun place field found => ?_
      obtain ⟨inside, rfl⟩ := List.getElem?_eq_some_iff.mp found
      have here := held place inside (by simp; omega)
      rwa [List.get_eq_getElem, List.get_eq_getElem, getElem_padded] at here
    | null => cases given
    | bool value => cases given
    | number value => cases given
    | string value => cases given

/-- A reader that takes a document apart into what it offers to the fields. -/
theorem isReadBy_bind {ofOffers : List (Option Json) → Option Record}
    (reads : ∀ offers record, ofOffers offers = some record ↔
      List.Forall₂ (fun field offer => field.Holds offer (field.get record)) shape.fields offers) :
    shape.kind.IsReadBy fun document =>
      document.fields? (shape.fields.map Field.name) >>= ofOffers := by
  intro document record
  refine Iff.trans ?_ spells_iff.symm
  rw [Option.bind_eq_bind, Option.bind_eq_some_iff]
  exact exists_congr fun offers => and_congr_right fun _ => reads offers record

end Shape

/-! ### What is read by a table -/

namespace Shape

section

variable {Record : Type} (shape : Shape Record)

/-- The records of a list of documents: an element that spells a record gives it, and one that
spells none is passed over, whatever the others are. -/
inductive Collects : List Json → List Record → Prop
  | nil : Collects [] []
  | taken {element : Json} {record : Record} {elements : List Json} {records : List Record} :
    shape.Spells element record → Collects elements records →
      Collects (element :: elements) (record :: records)
  | passed {element : Json} {elements : List Json} {records : List Record} :
    (∀ record, ¬ shape.Spells element record) → Collects elements records →
      Collects (element :: elements) records

/-- The members of an object that the table knows. -/
def known (members : List (String × Json)) : List (String × Json) :=
  members.filter fun member => member.1 ∈ shape.fields.map Field.name

/-- What it is for records to be read by a table, in which the fields of some names take null. -/
structure Decodes (read? : Json → Option Record) (nullable : List String) : Prop where
  /-- Only a list has records, and they are those that its elements spell, in their order. -/
  collected : ∀ query document records, Connection.recordsOf read? query document = .ok records ↔
    ∃ elements, document = .array elements ∧ shape.Collects elements records
  /-- One document is read as the record that it spells. -/
  spelled : ∀ document record, read? document = some record ↔ shape.Spells document record
  /-- An object is read if it has the fields that have no default and if all that it gives to
  fields is of their kinds. -/
  complete : ∀ members, (∃ record, read? (.object members) = some record) ↔
    (∀ field ∈ shape.fields, field.default? = none →
      ∃ document, Json.memberOf members field.name = some document) ∧
    ∀ field ∈ shape.fields, ∀ document, Json.memberOf members field.name = some document →
      ∃ value, field.kind.Spells document value
  /-- Null is of the kind of the fields with these names, and of no other. -/
  nulls : ∀ field ∈ shape.fields, field.kind.TakesNull ↔ field.name ∈ nullable
  /-- Two objects are read alike if they have the same known members in any order. -/
  alike : ∀ members others, ((shape.known members).map Prod.fst).Nodup →
    (shape.known members).Perm (shape.known others) →
      read? (.object members) = read? (.object others)
  /-- A field that is left out has its default. -/
  defaulted : ∀ members record, read? (.object members) = some record → ∀ field ∈ shape.fields,
    Json.memberOf members field.name = none → field.default? = some (field.get record)
  /-- A record that is written out in full is read back. -/
  written : ∀ record, (∀ field ∈ shape.fields, field.kind.Fits (field.get record)) →
    read? (shape.write record) = some record
  /-- Every record that is read can be written out. -/
  fitting : ∀ document record, read? document = some record →
    ∀ field ∈ shape.fields, field.kind.Fits (field.get record)

end

variable {Record : Type} {shape : Shape Record} {read? : Json → Option Record}

theorem collects_iff (reads : shape.kind.IsReadBy read?) {elements : List Json}
    {records : List Record} :
    shape.Collects elements records ↔ elements.filterMap read? = records := by
  induction elements generalizing records with
  | nil => exact ⟨fun | .nil => rfl, fun | rfl => .nil⟩
  | cons element elements inductionHypothesis =>
    cases found : read? element with
    | none =>
      rw [List.filterMap_cons_none found, ← inductionHypothesis]
      have silent : ∀ record, ¬ shape.Spells element record := fun record spelled => by
        cases found.symm.trans ((reads element record).mpr spelled)
      refine ⟨fun collected => ?_, .passed silent⟩
      cases collected with
      | taken spelled _ => exact absurd spelled (silent _)
      | passed _ rest => exact rest
    | some record =>
      rw [List.filterMap_cons_some found]
      have spelled := (reads element record).mp found
      constructor
      · rintro (_ | ⟨other, rest⟩ | ⟨silent, _⟩)
        · cases found.symm.trans ((reads element _).mpr other)
          rw [inductionHypothesis.mp rest]
        · exact absurd spelled (silent record)
      · rintro rfl
        exact .taken spelled (inductionHypothesis.mpr rfl)

theorem recordsOf_eq_ok_iff (reads : shape.kind.IsReadBy read?) {query : String} {document : Json}
    {records : List Record} :
    Connection.recordsOf read? query document = .ok records ↔
      ∃ elements, document = .array elements ∧ shape.Collects elements records := by
  simp only [collects_iff reads]
  cases document <;> simp [Connection.recordsOf, Json.records?]

theorem read?_object_eq_some_iff (reads : shape.kind.IsReadBy read?)
    {members : List (String × Json)} {record : Record} :
    read? (.object members) = some record ↔ ∀ field ∈ shape.fields,
      field.Holds (Json.memberOf members field.name) (field.get record) := by
  refine (reads _ _).trans ⟨?_, .object⟩
  rintro (held | _)
  exact held

theorem exists_holds_iff {field : Field Record} {offer : Option Json} :
    (∃ value, field.Holds offer value) ↔
      (field.default? = none → ∃ document, offer = some document) ∧
        ∀ document, offer = some document → ∃ value, field.kind.Spells document value := by
  cases offer with
  | none => simp [Field.Holds, Kind.Holds, ← Option.isSome_iff_exists, Option.isSome_iff_ne_none]
  | some document => simp [Field.Holds, Kind.Holds]

theorem exists_read?_object_iff (reads : shape.kind.IsReadBy read?)
    {members : List (String × Json)} :
    (∃ record, read? (.object members) = some record) ↔
      ∀ field ∈ shape.fields, ∃ value, field.Holds (Json.memberOf members field.name) value := by
  simp only [read?_object_eq_some_iff reads]
  constructor
  · rintro ⟨record, held⟩ field among
    exact ⟨field.get record, held field among⟩
  · exact shape.combine fun field => field.Holds (Json.memberOf members field.name)

theorem memberOf_known {field : Field Record} (among : field ∈ shape.fields)
    (members : List (String × Json)) :
    Json.memberOf (shape.known members) field.name = Json.memberOf members field.name :=
  Json.memberOf_filter (fun name => name ∈ shape.fields.map Field.name)
    (decide_eq_true (List.mem_map_of_mem among))

theorem read?_object_congr (reads : shape.kind.IsReadBy read?)
    {members others : List (String × Json)}
    (distinct : ((shape.known members).map Prod.fst).Nodup)
    (same : (shape.known members).Perm (shape.known others)) :
    read? (.object members) = read? (.object others) := by
  refine Option.ext fun record => ?_
  rw [read?_object_eq_some_iff reads, read?_object_eq_some_iff reads]
  refine forall₂_congr fun field among => ?_
  rw [← memberOf_known among members, ← memberOf_known among others,
    Json.memberOf_eq_of_perm distinct same]

/-- All that there is to know of a reader follows from what documents it reads. -/
theorem decodes_of_isReadBy (reads : shape.kind.IsReadBy read?) {nullable : List String}
    (nulls : ∀ field ∈ shape.fields, field.kind.TakesNull ↔ field.name ∈ nullable) :
    shape.Decodes read? nullable where
  collected _ _ _ := recordsOf_eq_ok_iff reads
  spelled := reads
  complete members := by
    simp only [exists_read?_object_iff reads, exists_holds_iff]
    exact forall₂_and
  nulls := nulls
  alike _ _ := read?_object_congr reads
  defaulted members record found field among absent := by
    have held := (read?_object_eq_some_iff reads).mp found field among
    rwa [absent] at held
  written record fits := (reads _ _).mpr (spells_write record fits)
  fitting document record found := ((reads document record).mp found).fits

end Shape

end Deskbar
