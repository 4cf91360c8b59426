/-
This file proves that a refresh which fails leaves no trace. A refresh puts four queries to the
compositor, one after the other, and what it comes to is told by the four replies alone. The bar is
not touched before the last reply is in, so the events that wait go on waiting while refreshes fail,
and the first refresh that succeeds finds the bar as if there had been none before it.
-/

import Deskbar.Pattern.Compiled
import Deskbar.Proofs.Folds
import Deskbar.Proofs.Run
import Deskbar.Session

namespace Deskbar

/-- What comes back for the queries of a snapshot. -/
structure Replies where
  workspaces : Reply
  monitors : Reply
  windows : Reply
  rules : Reply

namespace Query

variable {State First Second : Type}

theorem run_pure (value : First) (state : State) :
    (pure value : Query State First).run state = (.ok value, state) := rfl

theorem run_bind (query : Query State First) (next : First → Query State Second) (state : State) :
    (query >>= next).run state =
      match query.run state with
      | (.ok value, after) => (next value).run after
      | (.error error, after) => (.error error, after) := by
  simp only [bind, ExceptT.bind, ExceptT.mk, StateT.bind, ExceptT.run]
  rcases query state with ⟨error | value, after⟩ <;> rfl

theorem run_bind_fst (query : Query State First) (next : First → Query State Second)
    (state : State) :
    ((query >>= next).run state).1 =
      (query.run state).1 >>= fun value => ((next value).run (query.run state).2).1 := by
  rw [run_bind]
  rcases query.run state with ⟨error | value, after⟩ <;> rfl

end Query

namespace Connection

variable {State : Type} (connection : Connection State)

/-! ### Replies to one query -/

/-- How a reply to a query for records fails it. -/
inductive Fails (query : String) : Reply → Connection.Error → Prop
  | broken {phase : Phase} {reason : String} :
    Fails query (.broken phase reason) (.unreachable ⟨connection.socket, phase, reason⟩)
  | silence : Fails query .silence (connection.silenceError (documentRequest query))
  | empty : Fails query (.content []) .closed
  | malformed {bytes : List UInt8} : bytes ≠ [] → Json.read? (Text.Utf8.decodeLossy bytes) = none →
    Fails query (.content bytes) (.malformedReply (documentRequest query))
  | notAList {bytes : List UInt8} {document : Json} : bytes ≠ [] →
    Json.read? (Text.Utf8.decodeLossy bytes) = some document →
    (∀ elements, document ≠ .array elements) →
    Fails query (.content bytes) (.notAList query document)

/-- The records that a reply lists. -/
inductive Lists {Record : Type} (read? : Json → Option Record) : Reply → List Record → Prop
  | content {bytes : List UInt8} {elements : List Json} : bytes ≠ [] →
    Json.read? (Text.Utf8.decodeLossy bytes) = some (.array elements) →
    Lists read? (.content bytes) (elements.filterMap read?)

/-- What a reply to a query for records comes to. -/
def judge {Record : Type} (read? : Json → Option Record) (query : String) (reply : Reply) :
    Except Connection.Error (List Record) :=
  match connection.readReply (documentRequest query) reply with
  | .ok text =>
    match Json.read? text with
    | some document => recordsOf read? query document
    | none => .error (.malformedReply (documentRequest query))
  | .error error => .error error

variable {connection} {Record : Type} {read? : Json → Option Record} {query : String}
  {reply : Reply}

theorem judge_content {bytes : List UInt8} (filled : bytes ≠ []) :
    connection.judge read? query (.content bytes) =
      match Json.read? (Text.Utf8.decodeLossy bytes) with
      | some document => recordsOf read? query document
      | none => .error (.malformedReply (documentRequest query)) := by
  cases bytes with
  | nil => exact absurd rfl filled
  | cons byte bytes => rfl

theorem judge_eq_error_iff (connection : Connection State) (read? : Json → Option Record)
    (query : String) {error : Connection.Error} :
    connection.judge read? query reply = .error error ↔ connection.Fails query reply error := by
  constructor
  · intro judged
    match reply with
    | .broken phase reason =>
      cases judged
      exact .broken
    | .silence =>
      cases judged
      exact .silence
    | .content [] =>
      cases judged
      exact .empty
    | .content (byte :: bytes) =>
      rw [judge_content (List.cons_ne_nil byte bytes)] at judged
      split at judged
      · rename_i document found
        cases document with
        | array elements => cases judged
        | _ =>
          cases judged
          exact .notAList (List.cons_ne_nil byte bytes) found nofun
      · rename_i unread
        cases judged
        exact .malformed (List.cons_ne_nil byte bytes) unread
  · rintro (_ | _ | _ | ⟨filled, unread⟩ | ⟨filled, found, other⟩)
    · rfl
    · rfl
    · rfl
    · rw [judge_content filled, unread]
    · rename_i document
      rw [judge_content filled, found]
      cases document with
      | array elements => exact absurd rfl (other elements)
      | _ => rfl

theorem judge_eq_ok_iff (connection : Connection State) (read? : Json → Option Record)
    (query : String) {records : List Record} :
    connection.judge read? query reply = .ok records ↔ Lists read? reply records := by
  constructor
  · intro judged
    match reply with
    | .broken phase reason => cases judged
    | .silence => cases judged
    | .content [] => cases judged
    | .content (byte :: bytes) =>
      rw [judge_content (List.cons_ne_nil byte bytes)] at judged
      split at judged
      · rename_i document found
        cases document with
        | array elements =>
          cases judged
          exact .content (List.cons_ne_nil byte bytes) found
        | _ => cases judged
      · cases judged
  · rintro ⟨filled, found⟩
    rw [judge_content filled, found]
    rfl

theorem run_request (connection : Connection State) (text : String) (state : State) :
    (connection.request text).run state =
      (connection.readReply text (connection.exchange text state).1,
        (connection.exchange text state).2) := rfl

/-- A query for records puts one request to the compositor and judges the reply. -/
theorem run_records (state : State) :
    (connection.records read? query).run state =
      (connection.judge read? query (connection.exchange (documentRequest query) state).1,
        (connection.exchange (documentRequest query) state).2) := by
  have requested := run_request connection (documentRequest query) state
  unfold records judge document
  rw [Query.run_bind, Query.run_bind, requested]
  cases connection.readReply (documentRequest query)
      (connection.exchange (documentRequest query) state).1 with
  | error failure => rfl
  | ok text =>
    cases found : Json.read? text with
    | none =>
      simp only [found]
      rfl
    | some document =>
      simp only [found, Query.run_pure]
      cases recordsOf read? query document <;> rfl

/-! ### Replies to all queries -/

variable (connection)

/-- The replies to the queries of a snapshot, if they are put to the compositor in a state, one
after the other. -/
def replies (state : State) : Replies :=
  let (workspaces, state) := connection.exchange (documentRequest "workspaces") state
  let (monitors, state) := connection.exchange (documentRequest "monitors") state
  let (windows, state) := connection.exchange (documentRequest "clients") state
  let (rules, _) := connection.exchange (documentRequest "workspacerules") state
  { workspaces, monitors, windows, rules }

/-- A compositor that replies to each query as it has been told. -/
def scripted (socket : String) (deadline : Option Nat) : Connection Replies where
  socket := socket
  deadline := deadline
  exchange request script :=
    if request = documentRequest "workspaces" then (script.workspaces, script)
    else if request = documentRequest "monitors" then (script.monitors, script)
    else if request = documentRequest "clients" then (script.windows, script)
    else (script.rules, script)

/-- Any four replies are those of some compositor. -/
theorem replies_scripted (socket : String) (deadline : Option Nat) (script : Replies) :
    (scripted socket deadline).replies script = script := rfl

variable {connection}

/-- Rules that cannot be had count as none. -/
theorem run_rules (state : State) :
    ((tryCatch connection.rules fun _ => pure [] : Query State (List ReportedRule)).run state).1 =
      .ok ((connection.judge ReportedRule.read? "workspacerules"
          (connection.exchange (documentRequest "workspacerules") state).1).toOption.getD []) := by
  have asked : connection.rules.run state = _ := run_records state
  simp only [tryCatch, tryCatchThe, MonadExceptOf.tryCatch, ExceptT.tryCatch, ExceptT.mk,
    ExceptT.run, bind, StateT.bind] at asked ⊢
  rw [asked]
  cases connection.judge ReportedRule.read? "workspacerules"
    (connection.exchange (documentRequest "workspacerules") state).1 <;> rfl

/-- What a snapshot is, given the replies to its queries. -/
theorem run_snapshot (state : State) :
    (connection.snapshot.run state).1 = (do
      let replies := connection.replies state
      let workspaces ← connection.judge ReportedWorkspace.read? "workspaces" replies.workspaces
      let monitors ← connection.judge ReportedMonitor.read? "monitors" replies.monitors
      let windows ← connection.judge ReportedWindow.read? "clients" replies.windows
      let rules := connection.judge ReportedRule.read? "workspacerules" replies.rules
      return { workspaces, monitors, windows, rules := rules.toOption.getD [] }) := by
  unfold snapshot workspaces monitors windows
  -- Each query is put in the state in which `replies` puts it, as long as none before it fails.
  rw [Query.run_bind_fst, run_records]
  refine bind_congr fun workspaces => ?_
  rw [Query.run_bind_fst, run_records]
  refine bind_congr fun monitors => ?_
  rw [Query.run_bind_fst, run_records]
  refine bind_congr fun windows => ?_
  rw [Query.run_bind_fst, run_rules]
  rfl

variable (connection)

/-- The error of the first query that fails, of those that have to succeed. -/
inductive FailsFirst (replies : Replies) : Connection.Error → Prop
  | workspaces {error : Connection.Error} :
    connection.Fails "workspaces" replies.workspaces error → FailsFirst replies error
  | monitors {error : Connection.Error} :
    (∀ earlier, ¬ connection.Fails "workspaces" replies.workspaces earlier) →
    connection.Fails "monitors" replies.monitors error → FailsFirst replies error
  | windows {error : Connection.Error} :
    (∀ earlier, ¬ connection.Fails "workspaces" replies.workspaces earlier) →
    (∀ earlier, ¬ connection.Fails "monitors" replies.monitors earlier) →
    connection.Fails "clients" replies.windows error → FailsFirst replies error

/-- What is in a snapshot. Rules that cannot be had count as none. -/
structure Answers (replies : Replies) (snapshot : Snapshot) : Prop where
  workspaces : Lists ReportedWorkspace.read? replies.workspaces snapshot.workspaces
  monitors : Lists ReportedMonitor.read? replies.monitors snapshot.monitors
  windows : Lists ReportedWindow.read? replies.windows snapshot.windows
  rules : Lists ReportedRule.read? replies.rules snapshot.rules ∨
    (∃ error, connection.Fails "workspacerules" replies.rules error) ∧ snapshot.rules = []

variable {connection}

theorem exists_lists_iff :
    (∃ records, Lists read? reply records) ↔ ∀ error, ¬ connection.Fails query reply error := by
  simp only [← judge_eq_ok_iff connection read? query, ← judge_eq_error_iff connection read? query]
  cases connection.judge read? query reply <;> simp

theorem toOption_judge_iff {records : List Record} :
    (connection.judge read? query reply).toOption.getD [] = records ↔
      Lists read? reply records ∨
        (∃ error, connection.Fails query reply error) ∧ records = [] := by
  simp only [← judge_eq_ok_iff connection read? query, ← judge_eq_error_iff connection read? query]
  cases connection.judge read? query reply <;> simp [Except.toOption, eq_comm]

/-- A snapshot fails with the error of the first query that fails. -/
theorem snapshot_eq_error_iff {state : State} {error : Connection.Error} :
    (connection.snapshot.run state).1 = .error error ↔
      connection.FailsFirst (connection.replies state) error := by
  rw [run_snapshot]
  simp only [bind_eq_error_iff, judge_eq_error_iff, judge_eq_ok_iff]
  constructor
  · rintro (failed | ⟨_, first, failed | ⟨_, second, failed | ⟨_, _, ⟨⟩⟩⟩⟩)
    · exact .workspaces failed
    · exact .monitors (exists_lists_iff.mp ⟨_, first⟩) failed
    · exact .windows (exists_lists_iff.mp ⟨_, first⟩) (exists_lists_iff.mp ⟨_, second⟩) failed
  · rintro (failed | ⟨first, failed⟩ | ⟨first, second, failed⟩)
    · exact .inl failed
    · obtain ⟨reports, first⟩ := exists_lists_iff.mpr first
      exact .inr ⟨reports, first, .inl failed⟩
    · obtain ⟨reports, first⟩ := exists_lists_iff.mpr first
      obtain ⟨others, second⟩ := exists_lists_iff.mpr second
      exact .inr ⟨reports, first, .inr ⟨others, second, .inl failed⟩⟩

/-- A snapshot that does not fail is made of the records in the replies. -/
theorem snapshot_eq_ok_iff {state : State} {snapshot : Snapshot} :
    (connection.snapshot.run state).1 = .ok snapshot ↔
      connection.Answers (connection.replies state) snapshot := by
  rw [run_snapshot]
  simp only [bind_eq_ok_iff, judge_eq_ok_iff]
  constructor
  · rintro ⟨workspaces, first, monitors, second, windows, third, ⟨⟩⟩
    exact ⟨first, second, third, toOption_judge_iff.mp rfl⟩
  · rintro ⟨first, second, third, fourth⟩
    refine ⟨_, first, _, second, _, third, ?_⟩
    rw [toOption_judge_iff.mpr fourth]
    rfl

/-- A snapshot fails if one of the queries fails that have to succeed. -/
theorem exists_failsFirst_iff {replies : Replies} :
    (∃ error, connection.FailsFirst replies error) ↔
      (∃ error, connection.Fails "workspaces" replies.workspaces error) ∨
      (∃ error, connection.Fails "monitors" replies.monitors error) ∨
      ∃ error, connection.Fails "clients" replies.windows error := by
  constructor
  · rintro ⟨error, failed | ⟨_, failed⟩ | ⟨_, _, failed⟩⟩
    · exact .inl ⟨error, failed⟩
    · exact .inr (.inl ⟨error, failed⟩)
    · exact .inr (.inr ⟨error, failed⟩)
  · intro failed
    by_cases first : ∃ error, connection.Fails "workspaces" replies.workspaces error
    · exact first.imp fun _ => .workspaces
    have passed := not_exists.mp first
    by_cases second : ∃ error, connection.Fails "monitors" replies.monitors error
    · exact second.imp fun _ => .monitors passed
    · have third := (failed.resolve_left first).resolve_left second
      exact third.imp fun _ => .windows passed (not_exists.mp second)

end Connection

/-! ### Refreshes -/

section Refreshes

variable {State : Type} {connection : Connection State} {state next : State}

/-- A bar is refreshed by a tick on what the compositor answers. -/
theorem Tracker.run_refresh {snapshot : Snapshot}
    (answered : connection.snapshot.run state = (.ok snapshot, next)) (tracker : Tracker) :
    (tracker.refresh connection).run state =
      ((.ok (tracker.tick snapshot).buttons, tracker.tick snapshot), next) := by
  simp only [refresh, bind, StateT.bind, StateT.run, answered]
  rfl

/-- A bar that cannot be refreshed stays as it is. -/
theorem Tracker.run_refresh_of_error {error : Connection.Error}
    (failed : connection.snapshot.run state = (.error error, next)) (tracker : Tracker) :
    (tracker.refresh connection).run state = ((.error error, tracker), next) := by
  simp only [refresh, bind, StateT.bind, StateT.run, failed]
  rfl

theorem Tracker.run_refresh_fst (connection : Connection State) (tracker : Tracker)
    (state : State) :
    ((tracker.refresh connection).run state).1 =
      match (connection.snapshot.run state).1 with
      | .error error => (.error error, tracker)
      | .ok snapshot => (.ok (tracker.tick snapshot).buttons, tracker.tick snapshot) := by
  rcases answered : connection.snapshot.run state with ⟨error | snapshot, next⟩
  · rw [Tracker.run_refresh_of_error answered]
  · rw [Tracker.run_refresh answered]

/-- What happens to a bar: an event comes in, or a refresh finds the compositor in a state. -/
inductive Occasion (State : Type) where
  | event (event : Event)
  | refresh (state : State)

/-- Whether an occasion is anything but a refresh that fails. -/
def Occasion.counts (connection : Connection State) : Occasion State → Bool
  | .event _ => true
  | .refresh state => (connection.snapshot.run state).1.isOk

/-- The results of the refreshes among occasions, and the bar after them. -/
def Tracker.live (connection : Connection State) : List (Occasion State) → Tracker →
    List (Except Connection.Error (List Button)) × Tracker
  | [], tracker => ([], tracker)
  | .event event :: rest, tracker => live connection rest (tracker.push event)
  | .refresh state :: rest, tracker =>
    let (result, refreshed) := ((tracker.refresh connection).run state).1
    let (results, last) := live connection rest refreshed
    (result :: results, last)

theorem Tracker.live_refresh_of_error {error : Connection.Error}
    (failed : (connection.snapshot.run state).1 = .error error) (rest : List (Occasion State))
    (tracker : Tracker) :
    tracker.live connection (.refresh state :: rest) =
      (.error error :: (tracker.live connection rest).1, (tracker.live connection rest).2) := by
  have refreshed := run_refresh_fst connection tracker state
  rw [failed] at refreshed
  simp only [live, refreshed]

theorem Tracker.live_refresh_of_ok {snapshot : Snapshot}
    (answered : (connection.snapshot.run state).1 = .ok snapshot) (rest : List (Occasion State))
    (tracker : Tracker) :
    tracker.live connection (.refresh state :: rest) =
      (.ok (tracker.tick snapshot).buttons :: ((tracker.tick snapshot).live connection rest).1,
        ((tracker.tick snapshot).live connection rest).2) := by
  have refreshed := run_refresh_fst connection tracker state
  rw [answered] at refreshed
  simp only [live, refreshed]

/-- Without the refreshes that fail there are the same results of the others and the same bar in the
end. -/
theorem Tracker.live_filter (occasions : List (Occasion State)) (tracker : Tracker) :
    tracker.live connection (occasions.filter (Occasion.counts connection)) =
      ((tracker.live connection occasions).1.filter Except.isOk,
        (tracker.live connection occasions).2) := by
  induction occasions generalizing tracker with
  | nil => rfl
  | cons occasion rest inductionHypothesis =>
    cases occasion with
    | event event => exact inductionHypothesis (tracker.push event)
    | refresh state =>
      cases found : (connection.snapshot.run state).1 with
      | error error =>
        have fails : ¬ (Occasion.refresh state).counts connection = true := by
          rw [Occasion.counts, found]
          exact Bool.false_ne_true
        rw [List.filter_cons_of_neg fails, inductionHypothesis, live_refresh_of_error found]
        rfl
      | ok snapshot =>
        have succeeds : (Occasion.refresh state).counts connection = true := by
          rw [Occasion.counts, found]
          rfl
        rw [List.filter_cons_of_pos succeeds, live_refresh_of_ok found, live_refresh_of_ok found,
          inductionHypothesis]
        rfl

/-- What a tracker takes in on an occasion. -/
def Occasion.input? (connection : Connection State) : Occasion State → Option Tracker.Input
  | .event announced => some (.event announced)
  | .refresh state => (connection.snapshot.run state).1.toOption.map .snapshot

/-- The bar is brought to where the events and the snapshots alone bring it. -/
theorem Tracker.live_snd (occasions : List (Occasion State)) (tracker : Tracker) :
    (tracker.live connection occasions).2 =
      (occasions.filterMap (Occasion.input? connection)).foldl accept tracker := by
  induction occasions generalizing tracker with
  | nil => rfl
  | cons occasion rest inductionHypothesis =>
    cases occasion with
    | event event => exact inductionHypothesis (tracker.push event)
    | refresh state =>
      cases found : (connection.snapshot.run state).1 with
      | error error =>
        have ignored : (Occasion.refresh state).input? connection = none := by
          rw [Occasion.input?, found]
          rfl
        rw [List.filterMap_cons_none ignored, live_refresh_of_error found, inductionHypothesis]
      | ok snapshot =>
        have taken : (Occasion.refresh state).input? connection = some (.snapshot snapshot) := by
          rw [Occasion.input?, found]
          rfl
        rw [List.filterMap_cons_some taken, live_refresh_of_ok found, inductionHypothesis]
        rfl

/-- A snapshot fails with the error of the first query that fails, where rules that cannot be had
count as none, and is otherwise made of the records in the replies. A refresh whose snapshot fails
gives its error and leaves the bar as it is; so however many such refreshes there are among events
and other refreshes, the results of the others and the bar in the end are what they are without
them. -/
theorem Tracker.failed_refreshes_leave_no_trace (connection : Connection State) :
    (∀ state error, (connection.snapshot.run state).1 = .error error ↔
      connection.FailsFirst (connection.replies state) error) ∧
    (∀ replies, (∃ error, connection.FailsFirst replies error) ↔
      (∃ error, connection.Fails "workspaces" replies.workspaces error) ∨
      (∃ error, connection.Fails "monitors" replies.monitors error) ∨
      ∃ error, connection.Fails "clients" replies.windows error) ∧
    (∀ state snapshot, (connection.snapshot.run state).1 = .ok snapshot ↔
      connection.Answers (connection.replies state) snapshot) ∧
    (∀ (tracker : Tracker) (state : State), ((tracker.refresh connection).run state).1 =
      match (connection.snapshot.run state).1 with
      | .error error => (.error error, tracker)
      | .ok snapshot => (.ok (tracker.tick snapshot).buttons, tracker.tick snapshot)) ∧
    ∀ (occasions : List (Occasion State)) (tracker : Tracker),
      tracker.live connection (occasions.filter (Occasion.counts connection)) =
          ((tracker.live connection occasions).1.filter Except.isOk,
            (tracker.live connection occasions).2) ∧
        (tracker.live connection occasions).2 =
          (occasions.filterMap (Occasion.input? connection)).foldl accept tracker :=
  ⟨fun _ _ => Connection.snapshot_eq_error_iff, fun _ => Connection.exists_failsFirst_iff,
    fun _ _ => Connection.snapshot_eq_ok_iff,
    run_refresh_fst connection,
    fun occasions tracker => ⟨live_filter occasions tracker, live_snd occasions tracker⟩⟩

-- The second refresh gets no list of monitors. The third, which gets no rules, takes the window in.
example :
    let reply := fun text : String => Reply.content text.toUTF8.data.toList
    let broken : Replies := ⟨reply "[]", reply "7", reply "[]", reply "[]"⟩
    let whole : Replies := ⟨reply "[]", reply "[]", reply "[]", .broken .sending "Broken pipe"⟩
    let run := (Tracker.ofConfig {}).live (.scripted "socket" none)
      [.refresh whole, .event (.window (.opened "ab" "2" "editor" "notes")), .refresh broken,
        .refresh whole]
    run.1.map Except.isOk = [true, false, true] ∧ run.2.model.orphans.keys = ["ab"] := by
  decide +kernel

end Refreshes

end Deskbar
