/-
This file shows that a bad line costs only itself. What a bar is told by a row of bytes is what it
is told by each of their lines, one after the other, and a line is read as if it were alone. The
listener takes in byte by byte what is described here line by line. It never stops at a line: it
says that the connection has ended when the compositor ends it, after it has done everything about
the last record.
-/

import Mathlib.Data.List.Nodup
import Deskbar.Listener
import Deskbar.Pattern.Compiled
import Deskbar.Proofs.Grammar
import Deskbar.Proofs.Subscriptions
import Deskbar.Proofs.Utf8

namespace Deskbar

namespace Event

/-! ### Lines of bytes -/

variable {line bytes first second : List UInt8} {record : EventRecord}

/-- The lines of bytes are the pieces between their line feeds, up to an empty one at the end. -/
theorem splitOn_lineFeed (bytes : List UInt8) :
    ∃ last, last ∈ [[], [[]]] ∧ bytes.splitOn lineFeed = byteLines bytes ++ last := by
  induction bytes with
  | nil => exact ⟨[[]], by simp, rfl⟩
  | cons byte rest inductionHypothesis =>
    obtain ⟨last, empty, split⟩ := inductionHypothesis
    rw [List.splitOn] at split ⊢
    rw [List.splitOnP_cons_eq_if_modifyHead, split, byteLines]
    by_cases ends : byte = lineFeed
    · rw [if_pos (beq_iff_eq.mpr ends), if_pos ends]
      exact ⟨last, empty, rfl⟩
    · rw [if_neg (fun same => ends (beq_iff_eq.mp same)), if_neg ends]
      cases lines : byteLines rest with
      | nil =>
        rw [lines] at split
        rcases List.mem_pair.mp empty with rfl | rfl
        · exact absurd split (List.splitOnP_ne_nil _ _)
        · exact ⟨[], by simp, rfl⟩
      | cons head others => exact ⟨last, empty, rfl⟩

theorem recordOnLine?_nil : recordOnLine? [] = none := by decide

/-- A line is read as if it were alone. -/
theorem recordsIn_eq_filterMap (bytes : List UInt8) :
    recordsIn bytes = (bytes.splitOn lineFeed).filterMap recordOnLine? := by
  obtain ⟨last, empty, split⟩ := splitOn_lineFeed bytes
  have nothing : last.filterMap recordOnLine? = [] := by
    rcases List.mem_pair.mp empty with rfl | rfl
    · rfl
    · exact List.filterMap_cons_none recordOnLine?_nil
  rw [split, List.filterMap_append, nothing, List.append_nil, recordsIn]

theorem splitOn_append_lineFeed (first second : List UInt8) :
    (first ++ lineFeed :: second).splitOn lineFeed =
      first.splitOn lineFeed ++ second.splitOn lineFeed :=
  List.splitOnP_append_cons first second (beq_self_eq_true lineFeed)

theorem splitOn_of_not_mem (free : lineFeed ∉ line) : line.splitOn lineFeed = [line] :=
  List.splitOnP_eq_singleton fun _ member => beq_false_of_ne fun same => free (same ▸ member)

theorem recordsIn_append (first second : List UInt8) :
    recordsIn (first ++ lineFeed :: second) = recordsIn first ++ recordsIn second := by
  rw [recordsIn_eq_filterMap, splitOn_append_lineFeed, List.filterMap_append,
    ← recordsIn_eq_filterMap, ← recordsIn_eq_filterMap]

theorem recordOnLine?_eq_some_iff :
    recordOnLine? line = some record ↔
      EventRecord.IsCut (Text.Utf8.decodeLossy line) record := by
  rw [← EventRecord.ofLine_eq_ok_iff, recordOnLine?]
  cases EventRecord.ofLine (Text.Utf8.decodeLossy line) with
  | error error => exact ⟨nofun, nofun⟩
  | ok found => simp [Except.toOption]

theorem recordOnLine?_eq_none_iff :
    recordOnLine? line = none ↔
      ¬ EventRecord.separator.toList <:+: Text.trim (Text.Utf8.decodeLossy line).toList := by
  rw [recordOnLine?]
  cases read : EventRecord.ofLine (Text.Utf8.decodeLossy line) with
  | error error => exact iff_of_true rfl (EventRecord.ofLine_eq_error_iff.mp read).1
  | ok found =>
    refine iff_of_false nofun fun absent => ?_
    cases read.symm.trans (EventRecord.ofLine_eq_error_iff.mpr ⟨absent, rfl⟩)

/-- A line that is written in UTF-8 is read as it was written. -/
theorem recordOnLine?_bytes (text : String) :
    recordOnLine? (Text.bytes text) = (EventRecord.ofLine text).toOption := by
  rw [recordOnLine?, Text.Utf8.decodeLossy_bytes]

/-- The work that a record makes for a bar. -/
def work? (record : EventRecord) : Option Event :=
  if isTracked record.name then (ofRecord record).toOption else none

end Event

/-! ### Deliveries -/

namespace Session

/-- Whether the bar of a session listens to what makes work, under an id of its own. -/
structure IsAttached (session : Session) : Prop where
  listed : ⟨session.listener, isTracked⟩ ∈ session.subscriptions.entries
  distinct : (session.subscriptions.entries.map Subscription.id).Nodup

/-- The events that bytes bring to the bar of a session. -/
def pushed (session : Session) (bytes : List UInt8) : List Event :=
  eventsFor session.listener (session.deliveries bytes)

variable {session : Session}

/-- A bar stays attached, whoever else is added or removed before and after it. -/
theorem isAttached_of_standing {calls : List Subscriptions.Call}
    (after : session.subscriptions = Subscriptions.after calls)
    (stands : ⟨session.listener, isTracked⟩ ∈ Subscriptions.standing (Subscriptions.log calls)) :
    session.IsAttached := by
  have agrees := Subscriptions.agrees_after calls
  refine ⟨?_, ?_⟩
  · rw [after, agrees.entries]
    exact stands
  · rw [after, agrees.entries]
    exact agrees.distinct_standing

/-- A bar is attached when it is connected. -/
theorem isAttached_start [Pattern.Engine] (config : BarConfig) : (start config).IsAttached :=
  have alone : (start config).subscriptions = Subscriptions.after [.add isTracked] := rfl
  isAttached_of_standing alone (List.mem_singleton_self _)

/-- The subscription of the bar is the only one under its id. -/
theorem IsAttached.filter_id (attached : session.IsAttached) :
    (session.subscriptions.entries.filter fun other => other.id = session.listener) =
      [⟨session.listener, isTracked⟩] := by
  obtain ⟨before, after, split⟩ := List.append_of_mem attached.listed
  have distinct := attached.distinct
  rw [split, List.map_append, List.map_cons, List.nodup_middle, List.nodup_cons,
    ← List.map_append, List.mem_map] at distinct
  have absent : ∀ part ⊆ before ++ after,
      (part.filter fun other => other.id = session.listener) = [] := fun part within =>
    List.filter_eq_nil_iff.mpr fun other member same =>
      distinct.1 ⟨other, within member, of_decide_eq_true same⟩
  have own : ((⟨session.listener, isTracked⟩ :: after).filter fun other =>
      other.id = session.listener) = [⟨session.listener, isTracked⟩] := by
    have rest := absent after (List.subset_append_right _ _)
    rw [List.filter_cons, if_pos (decide_eq_true rfl), rest]
  rw [split, List.filter_append, own, absent before (List.subset_append_left _ _), List.nil_append]

theorem eventsFor_append (id : Nat) (first second : List (Nat × Event)) :
    eventsFor id (first ++ second) = eventsFor id first ++ eventsFor id second := by
  rw [eventsFor, List.filter_append, List.map_append]
  rfl

/-- A record brings the bar the work that it makes, whoever else listens. -/
theorem IsAttached.eventsFor_deliver (attached : session.IsAttached) (record : EventRecord) :
    eventsFor session.listener (session.subscriptions.deliver record) =
      (Event.work? record).toList := by
  rw [Subscriptions.deliver, Event.work?]
  cases Event.ofRecord record with
  | error error => simp [eventsFor, Except.toOption]
  | ok event =>
    have own : (session.subscriptions.entries.filter fun other => other.accepts record.name).filter
        (fun other => other.id = session.listener) =
        [⟨session.listener, isTracked⟩].filter fun other => other.accepts record.name := by
      rw [← attached.filter_id, List.filter_filter, List.filter_filter]
      simp only [Bool.and_comm]
    have mapped : eventsFor session.listener ((session.subscriptions.entries.filter fun other =>
          other.accepts record.name).map fun other => (other.id, event)) =
        ((session.subscriptions.entries.filter fun other => other.accepts record.name).filter
          fun other => other.id = session.listener).map fun _ => event := by
      rw [eventsFor, List.filter_map, List.map_map]
      rfl
    rw [mapped, own]
    cases tracked : isTracked record.name <;> simp [tracked, Except.toOption]

/-- What bytes bring to the bar is the work of their records. -/
theorem IsAttached.pushed_eq (attached : session.IsAttached) (connected : session.connected = true)
    (bytes : List UInt8) :
    session.pushed bytes = (Event.recordsIn bytes).filterMap Event.work? := by
  rw [pushed, deliveries, if_pos connected, Subscriptions.deliverAll]
  induction Event.recordsIn bytes with
  | nil => rfl
  | cons record rest inductionHypothesis =>
    rw [List.flatMap_cons, eventsFor_append, attached.eventsFor_deliver, inductionHypothesis,
      List.filterMap_cons]
    cases Event.work? record <;> rfl

theorem deliveries_append (session : Session) (first second : List UInt8) :
    session.deliveries (first ++ Event.lineFeed :: second) =
      session.deliveries first ++ session.deliveries second := by
  rw [deliveries, deliveries, deliveries, Event.recordsIn_append]
  cases session.connected with
  | false => rfl
  | true => exact List.flatMap_append

theorem takeIn_takeIn (session : Session) (first second : List (Nat × Event)) :
    (session.takeIn first).takeIn second = session.takeIn (first ++ second) := by
  simp only [takeIn, eventsFor_append, Tracker.pushAll, List.foldl_append]

/-- Bytes in front of a line feed are taken in before those behind it. -/
theorem receive_append (session : Session) (first second : List UInt8) :
    session.receive (first ++ Event.lineFeed :: second) =
      (session.receive first).receive second := by
  rw [receive, deliveries_append, ← takeIn_takeIn]
  rfl

end Session

/-! ### The listener -/

namespace Listener

open Event

/-- Whether a listener that began with a session has done all there is to do about some records,
and nothing else. -/
structure HasHeard (session : Session) (records : List EventRecord) (listener : Listener) :
    Prop where
  reached : listener.session = session.takeIn (session.subscriptions.deliverAll records)
  done : listener.acts = records.flatMap (actsOn session.subscriptions)

variable {session : Session} {records : List EventRecord} {listener : Listener}

theorem hasHeard_nil (session : Session) : HasHeard session [] { session } := ⟨rfl, rfl⟩

theorem HasHeard.connected (heard : HasHeard session records listener) :
    listener.session.connected = session.connected := by
  rw [heard.reached]
  rfl

theorem HasHeard.not_disconnected (heard : HasHeard session records listener) :
    .disconnected ∉ listener.acts := by
  rw [heard.done, List.mem_flatMap]
  rintro ⟨record, -, member⟩
  rcases List.mem_cons.mp member with same | delivered
  · cases same
  · obtain ⟨delivery, -, same⟩ := List.mem_map.mp delivered
    cases same

theorem HasHeard.handOut (heard : HasHeard session records listener) (record : EventRecord) :
    HasHeard session (records ++ [record]) (listener.handOut record) := by
  have subscriptions : listener.session.subscriptions = session.subscriptions := by
    rw [heard.reached]
    rfl
  constructor
  · show listener.session.takeIn (listener.session.subscriptions.deliver record) = _
    rw [subscriptions, heard.reached, Session.takeIn_takeIn, Subscriptions.deliverAll,
      Subscriptions.deliverAll, List.flatMap_append, List.flatMap_singleton]
  · show listener.acts ++ actsOn listener.session.subscriptions record = _
    rw [subscriptions, heard.done, List.flatMap_append, List.flatMap_singleton]

/-- At the end of a line, the record on it is one more that has been heard. -/
theorem HasHeard.endLine (heard : HasHeard session records listener) :
    HasHeard session (records ++ (recordOnLine? listener.unfinished).toList) listener.endLine := by
  have waiting : HasHeard session records { listener with unfinished := [] } :=
    ⟨heard.reached, heard.done⟩
  rw [Listener.endLine]
  cases recordOnLine? listener.unfinished with
  | none =>
    rw [Option.toList_none, List.append_nil]
    exact waiting
  | some record => exact waiting.handOut record

theorem unfinished_endLine (listener : Listener) : listener.endLine.unfinished = [] := by
  rw [Listener.endLine]
  cases recordOnLine? listener.unfinished <;> rfl

/-- The lines that have ended have been heard, and the last one waits. -/
theorem HasHeard.hearAll (heard : HasHeard session records listener)
    (free : lineFeed ∉ listener.unfinished) (bytes : List UInt8) :
    ∃ ended, (listener.unfinished ++ bytes).splitOn lineFeed =
        ended ++ [(listener.hearAll bytes).unfinished] ∧
      HasHeard session (records ++ ended.filterMap recordOnLine?) (listener.hearAll bytes) := by
  induction bytes generalizing listener records with
  | nil =>
    refine ⟨[], ?_, ?_⟩
    · rw [List.append_nil, splitOn_of_not_mem free]
      rfl
    · rw [List.filterMap_nil, List.append_nil]
      exact heard
  | cons byte rest inductionHypothesis =>
    by_cases ends : byte = lineFeed
    · have stepped : listener.hearAll (byte :: rest) = listener.endLine.hearAll rest :=
        congrArg (Listener.hearAll rest) (if_pos ends)
      obtain ⟨ended, split, later⟩ := inductionHypothesis heard.endLine
        (by rw [unfinished_endLine]; exact List.not_mem_nil)
      rw [unfinished_endLine, List.nil_append] at split
      refine ⟨listener.unfinished :: ended, ?_, ?_⟩
      · rw [ends, splitOn_append_lineFeed, splitOn_of_not_mem free, split, ← ends, stepped]
        rfl
      · rw [stepped, List.filterMap_cons]
        rw [List.append_assoc] at later
        cases read : recordOnLine? listener.unfinished with
        | none => simpa [read] using later
        | some record => simpa [read] using later
    · have stepped : listener.hearAll (byte :: rest) =
          { listener with unfinished := listener.unfinished ++ [byte] }.hearAll rest :=
        congrArg (Listener.hearAll rest) (if_neg ends)
      have waiting : HasHeard session records
          { listener with unfinished := listener.unfinished ++ [byte] } :=
        ⟨heard.reached, heard.done⟩
      have stillFree : lineFeed ∉ listener.unfinished ++ [byte] := by
        rw [List.mem_append, List.mem_singleton]
        rintro (inside | same)
        · exact free inside
        · exact ends same.symm
      obtain ⟨ended, split, later⟩ := inductionHypothesis waiting stillFree
      refine ⟨ended, ?_, ?_⟩
      · rw [stepped, ← split]
        simp
      · rw [stepped]
        exact later

/-- When the connection ends, every record has been heard, and nothing is done after the connection
is said to have ended. -/
theorem finish_hearAll (session : Session) (connected : session.connected = true)
    (bytes : List UInt8) :
    (hearAll bytes { session }).finish.session = session.finish bytes ∧
      (hearAll bytes { session }).finish.acts =
        (recordsIn bytes).flatMap (actsOn session.subscriptions) ++ [.disconnected] := by
  obtain ⟨ended, split, heard⟩ := (hasHeard_nil session).hearAll List.not_mem_nil bytes
  generalize hearAll bytes { session } = listener at split heard ⊢
  rw [List.nil_append] at split
  rw [List.nil_append] at heard
  have whole : HasHeard session (recordsIn bytes)
      (if listener.unfinished.isEmpty then listener else listener.endLine) := by
    rw [recordsIn_eq_filterMap, split, List.filterMap_append]
    have last : [listener.unfinished].filterMap recordOnLine? =
        (recordOnLine? listener.unfinished).toList := by
      rw [List.filterMap_cons]
      cases recordOnLine? listener.unfinished <;> rfl
    rw [last]
    split
    · next empty =>
      rw [List.isEmpty_iff.mp empty, recordOnLine?_nil, Option.toList_none, List.append_nil]
      exact heard
    · exact heard.endLine
  constructor
  · rw [finish, whole.reached, Session.finish, Session.receive, Session.deliveries,
      if_pos connected]
  · rw [finish, whole.done]

end Listener

/-- Bytes around a line feed bring a connected bar what those in front of it bring and then what
those behind it bring, and so does every line, whatever is on the others. A line without a separator
is passed over, and a record whose payload is not understood makes no work. The listener hears on
until the compositor ends the connection. Then it has done all there is to do about every record,
and what it does last is to say that the connection has ended. -/
theorem Session.hears_line_by_line {session : Session} (connected : session.connected = true)
    (attached : session.IsAttached) :
    (∀ first second,
      Event.recordsIn (first ++ Event.lineFeed :: second) =
          Event.recordsIn first ++ Event.recordsIn second ∧
        session.pushed (first ++ Event.lineFeed :: second) =
          session.pushed first ++ session.pushed second ∧
        session.receive (first ++ Event.lineFeed :: second) =
          (session.receive first).receive second) ∧
    (∀ bytes,
      Event.recordsIn bytes = (bytes.splitOn Event.lineFeed).filterMap Event.recordOnLine? ∧
        session.pushed bytes = (Event.recordsIn bytes).filterMap Event.work? ∧
        (session.receive bytes).tracker = session.tracker.pushAll (session.pushed bytes)) ∧
    (∀ line, (Event.recordOnLine? line = none ↔
        ¬ EventRecord.separator.toList <:+: Text.trim (Text.Utf8.decodeLossy line).toList) ∧
      ∀ record, Event.recordOnLine? line = some record ↔
        EventRecord.IsCut (Text.Utf8.decodeLossy line) record) ∧
    (∀ text, Event.recordOnLine? (Text.bytes text) = (EventRecord.ofLine text).toOption) ∧
    ∀ bytes,
      (Listener.hearAll bytes { session }).session.connected = true ∧
        .disconnected ∉ (Listener.hearAll bytes { session }).acts ∧
        (Listener.hearAll bytes { session }).finish.session = session.finish bytes ∧
        (Listener.hearAll bytes { session }).finish.acts =
          (Event.recordsIn bytes).flatMap (Listener.actsOn session.subscriptions) ++
            [.disconnected] := by
  refine ⟨fun first second => ⟨Event.recordsIn_append first second, ?_,
      receive_append session first second⟩,
    fun bytes => ⟨Event.recordsIn_eq_filterMap bytes, attached.pushed_eq connected bytes, rfl⟩,
    fun line => ⟨Event.recordOnLine?_eq_none_iff, fun _ => Event.recordOnLine?_eq_some_iff⟩,
    Event.recordOnLine?_bytes, fun bytes => ?_⟩
  · rw [pushed, deliveries_append, eventsFor_append]
    rfl
  · obtain ⟨ended, -, heard⟩ :=
      (Listener.hasHeard_nil session).hearAll List.not_mem_nil bytes
    exact ⟨heard.connected.trans connected, heard.not_disconnected,
      Listener.finish_hearAll session connected bytes⟩

/-- A line that is no record, an empty one, a record that lacks fields, and a title that ends in the
middle of a character. -/
def troubledBytes : List UInt8 :=
  Text.bytes "garbage\n\nopenwindow>>ab\nwindowtitlev2>>ab,caf" ++ [0xC3]

/-- Calls that add a bar between others, one of whom does not stay. -/
def crowdingCalls : List Subscriptions.Call :=
  [.add fun _ => true, .add isTracked, .add fun _ => true, .remove 1]

/-- A bar that is connected, and not the only one who listens. -/
def crowdedSession : Session :=
  { Session.start {} with subscriptions := Subscriptions.after crowdingCalls, listener := 2 }

/-- What comes behind a line that is not UTF-8 reaches the bar all the same. -/
theorem Session.hears_line_by_line_crowdedSession :
    crowdedSession.connected = true ∧ crowdedSession.IsAttached ∧
      crowdedSession.pushed (troubledBytes ++ Event.lineFeed :: Text.bytes "urgent>>ab") =
        [.window (.retitled "ab" (some "caf\uFFFD")), .window (.urgent "ab")] := by
  have connected : crowdedSession.connected = true := rfl
  have attached : crowdedSession.IsAttached :=
    isAttached_of_standing rfl (List.mem_cons_self : _ ∈ Subscriptions.standing
      (Subscriptions.log crowdingCalls))
  have heard := hears_line_by_line connected attached
  refine ⟨connected, attached, ?_⟩
  rw [(heard.1 _ _).2.1, (heard.2.1 _).2.1, (heard.2.1 _).2.1]
  decide +kernel

end Deskbar
