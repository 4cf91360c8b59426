/-
This file follows subscriptions through any history of calls. From the calls and their answers alone
it is told who listens: everyone who was added under an id whose removal was not asked for later.
Every answer is what the history before it demands. No id is given out twice, so to speak of an id
is to speak of one subscription.
-/

import Mathlib.Data.List.Induction
import Mathlib.Data.List.Nodup
import Deskbar.Event.Subscriptions

namespace Deskbar.Subscriptions

/-! ### Histories -/

/-- What may be asked of subscriptions. -/
inductive Call where
  | add (accepts : String → Bool)
  | remove (id : Nat)
  | dispatch (record : EventRecord)

/-- What subscriptions answer. -/
inductive Answer where
  /-- The id of a subscription that was added. -/
  | added (id : Nat)
  /-- Whether there was a subscription to remove. -/
  | removed (existed : Bool)
  /-- How many got the event of a record, and who got what. -/
  | dispatched (count : Nat) (deliveries : List (Nat × Event))
  deriving DecidableEq

/-- Answers a call. -/
def perform (subscriptions : Subscriptions) : Call → Answer × Subscriptions
  | .add accepts => (.added subscriptions.nextId, subscriptions.add accepts)
  | .remove id => (.removed (subscriptions.contains id), subscriptions.remove id)
  | .dispatch record =>
    let deliveries := subscriptions.deliver record
    (.dispatched deliveries.length deliveries, subscriptions)

/-- The subscriptions after calls. -/
def after (calls : List Call) : Subscriptions :=
  calls.foldl (fun subscriptions call => (subscriptions.perform call).2) {}

/-- Calls on subscriptions with their answers. -/
def logFrom (subscriptions : Subscriptions) : List Call → List (Call × Answer)
  | [] => []
  | call :: rest =>
    (call, (subscriptions.perform call).1) :: logFrom (subscriptions.perform call).2 rest

/-- Calls with their answers, from the first one on. -/
def log (calls : List Call) : List (Call × Answer) := logFrom {} calls

/-! ### What a history says -/

/-- The subscription that a call added, under the id that was its answer. -/
def added? : Call × Answer → Option Subscription
  | (.add accepts, .added id) => some ⟨id, accepts⟩
  | _ => none

/-- Whether a call asks for the removal of a subscription. -/
def Call.removes (subscription : Subscription) : Call → Bool
  | .remove id => subscription.id = id
  | _ => false

/-- Those who were added and not removed, in the order in which they were added. -/
def standing : List (Call × Answer) → List Subscription
  | [] => []
  | entry :: later =>
    match added? entry with
    | some subscription =>
      if later.any fun entry => entry.1.removes subscription then standing later
      else subscription :: standing later
    | none => standing later

/-- Those who are interested in a record, of all who were added and not removed. -/
def interested (history : List (Call × Answer)) (record : EventRecord) : List Subscription :=
  (standing history).filter fun subscription => subscription.accepts record.name

/-- Whether an answer is what the history before it demands. -/
inductive Fits (history : List (Call × Answer)) : Call → Answer → Prop
  | add {accepts : String → Bool} {id : Nat}
    (fresh : id ∉ (history.filterMap added?).map Subscription.id) :
    Fits history (.add accepts) (.added id)
  | remove {id : Nat} {existed : Bool}
    (known : existed = true ↔ id ∈ (standing history).map Subscription.id) :
    Fits history (.remove id) (.removed existed)
  | deliver {record : EventRecord} {event : Event}
    (understood : Event.ofRecord record = .ok event) :
    Fits history (.dispatch record) (.dispatched (interested history record).length
      ((interested history record).map fun subscription => (subscription.id, event)))
  | drop {record : EventRecord} {error : EventError}
    (refused : Event.ofRecord record = .error error) :
    Fits history (.dispatch record) (.dispatched 0 [])

theorem logFrom_append (subscriptions : Subscriptions) (first second : List Call) :
    logFrom subscriptions (first ++ second) = logFrom subscriptions first ++
      logFrom (first.foldl (fun subscriptions call => (subscriptions.perform call).2) subscriptions)
        second := by
  induction first generalizing subscriptions with
  | nil => rfl
  | cons call rest inductionHypothesis =>
    rw [List.cons_append, logFrom, logFrom, inductionHypothesis, List.cons_append]
    rfl

theorem log_concat (calls : List Call) (call : Call) :
    log (calls ++ [call]) = log calls ++ [(call, ((after calls).perform call).1)] :=
  logFrom_append {} calls [call]

theorem after_concat (calls : List Call) (call : Call) :
    after (calls ++ [call]) = ((after calls).perform call).2 := List.foldl_append

/-- One more call removes whom it asks to remove, and who it adds stands from then on. -/
theorem standing_concat (history : List (Call × Answer)) (entry : Call × Answer) :
    standing (history ++ [entry]) =
      (standing history).filter (fun subscription => !entry.1.removes subscription) ++
        (added? entry).toList := by
  induction history with
  | nil =>
    show (match added? entry with | some _ => _ | none => _ : List Subscription) = _
    cases added? entry <;> rfl
  | cons first rest inductionHypothesis =>
    rw [List.cons_append, standing, standing]
    cases added? first with
    | none => exact inductionHypothesis
    | some subscription =>
      simp only [List.any_append, List.any_cons, List.any_nil, Bool.or_false, Bool.or_eq_true]
      by_cases gone : (rest.any fun other => other.1.removes subscription) = true
      · rw [if_pos gone, if_pos (Or.inl gone), inductionHypothesis]
      · rw [if_neg gone, List.filter_cons]
        cases asked : entry.1.removes subscription with
        | true =>
          rw [if_pos (Or.inr rfl), inductionHypothesis]
          rfl
        | false =>
          rw [if_neg (not_or.mpr ⟨gone, Bool.false_ne_true⟩), inductionHypothesis]
          rfl

/-- Who was added and not removed was added. -/
theorem standing_sublist (history : List (Call × Answer)) :
    (standing history).Sublist (history.filterMap added?) := by
  induction history with
  | nil => exact List.Sublist.refl []
  | cons entry later inductionHypothesis =>
    rw [standing, List.filterMap_cons]
    cases added? entry with
    | none => exact inductionHypothesis
    | some subscription =>
      show (if _ then _ else _ : List Subscription).Sublist _
      split
      · exact inductionHypothesis.cons subscription
      · exact inductionHypothesis.cons_cons subscription

/-! ### What is kept -/

/-- Whether subscriptions are those of a history, whose ids have all been counted. -/
structure Agrees (subscriptions : Subscriptions) (history : List (Call × Answer)) : Prop where
  entries : subscriptions.entries = standing history
  counted : ∀ subscription ∈ history.filterMap added?, subscription.id ≤ subscriptions.added
  distinct : ((history.filterMap added?).map Subscription.id).Nodup

variable {subscriptions : Subscriptions} {history : List (Call × Answer)}

theorem Agrees.fresh (agrees : Agrees subscriptions history) :
    subscriptions.nextId ∉ (history.filterMap added?).map Subscription.id := by
  rw [List.mem_map]
  rintro ⟨subscription, member, same⟩
  have least := agrees.counted subscription member
  rw [same] at least
  exact Nat.not_succ_le_self _ least

theorem Agrees.distinct_standing (agrees : Agrees subscriptions history) :
    ((standing history).map Subscription.id).Nodup :=
  agrees.distinct.sublist ((standing_sublist history).map _)

/-- A call that adds no one leaves the ids as they are. -/
theorem Agrees.concat_of_adds_none (agrees : Agrees subscriptions history) {call : Call}
    (addsNone : added? (call, (subscriptions.perform call).1) = none)
    (counted : (subscriptions.perform call).2.added = subscriptions.added)
    (entries : (subscriptions.perform call).2.entries =
      subscriptions.entries.filter fun subscription => !call.removes subscription) :
    Agrees (subscriptions.perform call).2
      (history ++ [(call, (subscriptions.perform call).1)]) := by
  have same : (history ++ [(call, (subscriptions.perform call).1)]).filterMap added? =
      history.filterMap added? := by
    rw [List.filterMap_append, List.filterMap_cons_none addsNone, List.filterMap_nil,
      List.append_nil]
  refine ⟨?_, ?_, ?_⟩
  · rw [entries, standing_concat, addsNone, agrees.entries, Option.toList_none, List.append_nil]
  · rw [same, counted]
    exact agrees.counted
  · rw [same]
    exact agrees.distinct

/-- Subscriptions agree with a history that goes on with a call and their answer to it. -/
theorem Agrees.perform (agrees : Agrees subscriptions history) (call : Call) :
    Agrees (subscriptions.perform call).2
      (history ++ [(call, (subscriptions.perform call).1)]) := by
  cases call with
  | remove id =>
    refine agrees.concat_of_adds_none rfl rfl (List.filter_congr fun subscription _ => ?_)
    exact decide_not
  | dispatch record =>
    exact agrees.concat_of_adds_none rfl rfl (List.filter_eq_self.mpr fun _ _ => rfl).symm
  | add accepts =>
    have grown : (history ++
        [(Call.add accepts, (subscriptions.perform (.add accepts)).1)]).filterMap added? =
          history.filterMap added? ++ [⟨subscriptions.nextId, accepts⟩] :=
      List.filterMap_append
    refine ⟨?_, ?_, ?_⟩
    · rw [standing_concat, ← agrees.entries]
      exact congrArg (· ++ _) (List.filter_eq_self.mpr fun _ _ => rfl).symm
    · rw [grown]
      intro subscription member
      rcases List.mem_append.mp member with earlier | latest
      · exact Nat.le_succ_of_le (agrees.counted subscription earlier)
      · rw [List.mem_singleton.mp latest]
        exact Nat.le_refl _
    · rw [grown, List.map_append]
      exact agrees.distinct.append (List.nodup_singleton _)
        (List.disjoint_singleton.mpr agrees.fresh)

theorem agrees_after (calls : List Call) : Agrees (after calls) (log calls) := by
  induction calls using List.reverseRecOn with
  | nil => exact ⟨rfl, nofun, List.nodup_nil⟩
  | append_singleton calls call inductionHypothesis =>
    rw [log_concat, after_concat]
    exact inductionHypothesis.perform call

/-! ### Answers -/

/-- Subscriptions that agree with a history answer what it demands. -/
theorem Agrees.fits (agrees : Agrees subscriptions history) (call : Call) :
    Fits history call (subscriptions.perform call).1 := by
  cases call with
  | add accepts => exact .add agrees.fresh
  | remove id =>
    refine .remove ?_
    rw [contains, agrees.entries, List.any_eq_true, List.mem_map]
    simp only [decide_eq_true_eq]
  | dispatch record =>
    rw [Subscriptions.perform, deliver, agrees.entries]
    cases understood : Event.ofRecord record with
    | error error => exact .drop understood
    | ok event =>
      show Fits history (.dispatch record)
        (.dispatched ((interested history record).map _).length _)
      rw [List.length_map]
      exact .deliver understood

/-- Whatever is asked of subscriptions and in whatever order, no id is given out twice. The next
answer is what the calls before it demand: an id that is new, or whether someone stands under the id
that is to be removed, or the event of a record for everyone who stands and is interested, in the
order in which they were added and once for each of them, and for no one if the record is not
understood. A removal takes away the one who stands under its id and leaves all others as they
are. -/
theorem fits_log (calls : List Call) (call : Call) :
    (((log calls).filterMap added?).map Subscription.id).Nodup ∧
      ((standing (log calls)).map Subscription.id).Nodup ∧
      Fits (log calls) call ((after calls).perform call).1 ∧
      ((after calls).perform call).2.entries =
        (standing (log calls)).filter (fun subscription => !call.removes subscription) ++
          (added? (call, ((after calls).perform call).1)).toList := by
  have agrees := agrees_after calls
  refine ⟨agrees.distinct, agrees.distinct_standing, agrees.fits call, ?_⟩
  rw [(agrees.perform call).entries, standing_concat]

end Deskbar.Subscriptions
