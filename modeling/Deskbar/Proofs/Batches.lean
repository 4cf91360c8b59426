/-
This file describes the work that a tick finds by the events that were announced since the tick
before, and by nothing else. Changes of windows wait in the order in which they were announced, and
none is lost. Of changes of workspaces only creations are left out: a creation waits exactly when it
is the first one under its name after the last destruction under that name.

The work is collected event by event, and a destruction reaches back for a creation that waits. The
description has no such steps. It looks at every change between those announced before it and those
announced after it, and the two agree because a creation waits under a name exactly when one was
announced since the last destruction.
-/

import Mathlib.Data.List.DropRight
import Deskbar.Proofs.Run

namespace Deskbar

/-! ### Work that stands -/

namespace WorkspaceChange

/-- Whether a change is the destruction of a workspace under a raw name. -/
def destroys (name : String) : WorkspaceChange → Bool
  | .destroyed _ other => other = name
  | _ => false

/-- Whether one change destroys under the name under which an earlier one creates. -/
def cancels (later : WorkspaceChange) : WorkspaceChange → Bool
  | .created _ name => later.destroys name
  | _ => false

/-- The changes that were announced after the last one that destroys under a name. -/
def sinceDestroyed (name : String) (changes : List WorkspaceChange) : List WorkspaceChange :=
  changes.rtakeWhile fun change => !change.destroys name

/-- Whether a change that was announced between others is to be carried out. A creation is when no
destruction under its name comes after it, and when it is the first creation under its name since
the last destruction before it. Every other change is. -/
def stands (before after : List WorkspaceChange) : WorkspaceChange → Bool
  | .created _ name =>
    !after.any (destroys name) && !(sinceDestroyed name before).any (creates name)
  | _ => true

/-- The changes that are to be carried out, of those that were announced between others. -/
def standing (before : List WorkspaceChange) :
    List WorkspaceChange → List WorkspaceChange → List WorkspaceChange
  | [], _ => []
  | change :: rest, after =>
    if change.stands before (rest ++ after) then
      change :: standing (before ++ [change]) rest after
    else standing (before ++ [change]) rest after

end WorkspaceChange

namespace Event

/-- The change of a workspace that is announced. -/
def workspaceChange? : Event → Option WorkspaceChange
  | .workspace change => some change
  | _ => none

/-- The change of a window that is announced. -/
def windowChange? : Event → Option WindowChange
  | .window change => some change
  | _ => none

/-- Whether it is announced that a monitor shows something else or has the focus. -/
def changesMonitors : Event → Bool
  | .specialActivated _ _ => true
  | .monitorFocused _ _ => true
  | _ => false

/-- Whether an event is one that makes no work. -/
def isOther : Event → Bool
  | .other _ _ => true
  | _ => false

end Event

/-- The work that events make, one after the other. -/
def Backlog.ofEvents (events : List Event) : Backlog :=
  { workspaces := WorkspaceChange.standing [] (events.filterMap Event.workspaceChange?) []
    windows := events.filterMap Event.windowChange?
    monitorsChanged := events.any Event.changesMonitors
    configChanged := events.contains .configReloaded }

/-! ### One more change -/

namespace WorkspaceChange

theorem stands_append (before after : List WorkspaceChange) (change later : WorkspaceChange) :
    change.stands before (after ++ [later]) =
      (change.stands before after && !later.cancels change) := by
  cases change with
  | created id name =>
    simp only [stands, cancels, List.any_append, List.any_cons, List.any_nil, Bool.or_false,
      Bool.not_or]
    exact Bool.and_right_comm ..
  | _ => rfl

theorem standing_append (before first second after : List WorkspaceChange) :
    standing before (first ++ second) after =
      standing before first (second ++ after) ++ standing (before ++ first) second after := by
  induction first generalizing before with
  | nil => rw [List.nil_append, List.append_nil, standing, List.nil_append]
  | cons change rest inductionHypothesis =>
    rw [List.cons_append, standing, standing, List.append_assoc, inductionHypothesis,
      List.append_assoc, List.singleton_append]
    split
    · rw [List.cons_append]
    · rfl

/-- A change that comes last takes away the creations that it cancels. -/
theorem standing_singleton (before changes : List WorkspaceChange) (later : WorkspaceChange) :
    standing before changes [later] =
      (standing before changes []).filter fun change => !later.cancels change := by
  induction changes generalizing before with
  | nil => rfl
  | cons change rest inductionHypothesis =>
    rw [standing, standing, stands_append, inductionHypothesis, List.append_nil]
    cases change.stands before rest with
    | false => rfl
    | true =>
      rw [Bool.true_and, if_pos rfl, List.filter_cons]

/-- One more change takes away what it cancels, and waits itself if it stands. -/
theorem standing_concat (changes : List WorkspaceChange) (change : WorkspaceChange) :
    standing [] (changes ++ [change]) [] =
      (standing [] changes []).filter (fun other => !change.cancels other) ++
        if change.stands changes [] then [change] else [] := by
  rw [standing_append, List.append_nil, standing_singleton, List.nil_append]
  rfl

theorem sinceDestroyed_concat (name : String) (changes : List WorkspaceChange)
    (change : WorkspaceChange) :
    sinceDestroyed name (changes ++ [change]) =
      if change.destroys name then [] else sinceDestroyed name changes ++ [change] := by
  rw [sinceDestroyed, List.rtakeWhile_concat]
  cases change.destroys name <;> rfl

theorem any_creates_filter (name : String) (change : WorkspaceChange)
    (changes : List WorkspaceChange) :
    (changes.filter fun other => !change.cancels other).any (creates name) =
      (!change.destroys name && changes.any (creates name)) := by
  have pointwise : ∀ other : WorkspaceChange,
      (!change.cancels other && other.creates name) =
        (!change.destroys name && other.creates name) := by
    intro other
    cases other with
    | created id shown =>
      by_cases same : shown = name
      · rw [same]
        rfl
      · simp [creates, same]
    | _ => simp [creates]
  rw [List.any_filter, funext pointwise]
  cases change.destroys name with
  | true => simp
  | false => simp

theorem any_creates_of_stands (name : String) (before : List WorkspaceChange)
    (change : WorkspaceChange) :
    (if change.stands before [] then [change] else []).any (creates name) =
      (change.creates name && !(sinceDestroyed name before).any (creates name)) := by
  cases change with
  | created id shown =>
    by_cases same : shown = name
    · rw [same]
      cases found : (sinceDestroyed name before).any (creates name) <;>
        simp [stands, creates, found]
    · simp [creates, same, apply_ite (List.any · (creates name))]
  | _ => rfl

/-- A creation under a name waits exactly when one was announced since the last destruction under
that name. -/
theorem any_creates_standing (name : String) (changes : List WorkspaceChange) :
    (standing [] changes []).any (creates name) =
      (sinceDestroyed name changes).any (creates name) := by
  induction changes using List.reverseRecOn with
  | nil => rfl
  | append_singleton earlier change inductionHypothesis =>
    rw [standing_concat, List.any_append, any_creates_filter, any_creates_of_stands,
      inductionHypothesis, sinceDestroyed_concat]
    cases gone : change.destroys name with
    | true =>
      have created : change.creates name = false := by
        cases change with
        | destroyed id other => rfl
        | _ => cases gone
      rw [created]
      rfl
    | false =>
      rw [if_neg Bool.false_ne_true, List.any_append]
      cases (sinceDestroyed name earlier).any (creates name) <;> simp

theorem filter_not_cancels_eq_self {change : WorkspaceChange}
    (intact : ∀ id name, change ≠ .destroyed id name) (changes : List WorkspaceChange) :
    changes.filter (fun other => !change.cancels other) = changes := by
  refine List.filter_eq_self.mpr fun other _ => ?_
  cases other with
  | created id name =>
    cases change with
    | destroyed otherId otherName => exact absurd rfl (intact otherId otherName)
    | _ => rfl
  | _ => rfl

end WorkspaceChange

namespace Backlog

/-! ### The backlog of a row of events -/

/-- A change that is pushed is one more change to choose from. -/
theorem pushWorkspace_standing (changes : List WorkspaceChange) (change : WorkspaceChange) :
    pushWorkspace (WorkspaceChange.standing [] changes []) change =
      WorkspaceChange.standing [] (changes ++ [change]) [] := by
  rw [WorkspaceChange.standing_concat]
  cases change with
  | created id name =>
    rw [pushWorkspace, WorkspaceChange.any_creates_standing,
      WorkspaceChange.filter_not_cancels_eq_self (by simp)]
    cases found : (WorkspaceChange.sinceDestroyed name changes).any
        (WorkspaceChange.creates name) <;>
      simp [WorkspaceChange.stands, found]
  | destroyed id name =>
    have same : ∀ other : WorkspaceChange,
        (!other.creates name) = !(WorkspaceChange.destroyed id name).cancels other := by
      intro other
      cases other with
      | created otherId otherName =>
        simp [WorkspaceChange.creates, WorkspaceChange.cancels, WorkspaceChange.destroys, eq_comm]
      | _ => rfl
    rw [pushWorkspace, funext same]
    rfl
  | renamed id name =>
    rw [WorkspaceChange.filter_not_cancels_eq_self (by simp)]
    rfl
  | moved name monitor =>
    rw [WorkspaceChange.filter_not_cancels_eq_self (by simp)]
    rfl
  | activated name =>
    rw [WorkspaceChange.filter_not_cancels_eq_self (by simp)]
    rfl

theorem push?_eq_none_iff {backlog : Backlog} {event : Event} :
    backlog.push? event = none ↔ ∃ name payload, event = .other name payload := by
  cases event <;> simp [push?]

/-- An event that is pushed is one more event that has been announced. -/
theorem push_ofEvents (events : List Event) (event : Event) :
    (ofEvents events).push event = ofEvents (events ++ [event]) := by
  cases event <;>
    simp [push, push?, ofEvents, List.filterMap_cons, Event.workspaceChange?, Event.windowChange?,
      Event.changesMonitors, pushWorkspace_standing]

/-! ### Calls in any order -/

/-- What may be asked of a backlog: to take in an event, or to give away all the work. -/
inductive Call where
  | push (event : Event)
  | drain

/-- What a backlog answers: whether an event makes work, or the work. -/
inductive Answer where
  | tracked (makesWork : Bool)
  | batch (work : Backlog)
  deriving DecidableEq

/-- The answers to calls, one after the other. -/
def answers (backlog : Backlog) : List Call → List Answer
  | [] => []
  | .push event :: calls =>
    .tracked (backlog.push? event).isSome :: (backlog.push event).answers calls
  | .drain :: calls => .batch backlog :: answers {} calls

/-- The answers to calls, each by itself: an event makes work unless it is one that makes none, and
the work is that of the events since the last time that it was given away. -/
def answersSince (events : List Event) : List Call → List Answer
  | [] => []
  | .push event :: calls => .tracked (!event.isOther) :: answersSince (events ++ [event]) calls
  | .drain :: calls => .batch (ofEvents events) :: answersSince [] calls

theorem isSome_push? (backlog : Backlog) (event : Event) :
    (backlog.push? event).isSome = !event.isOther := by
  cases event <;> rfl

theorem answers_ofEvents (events : List Event) (calls : List Call) :
    (ofEvents events).answers calls = answersSince events calls := by
  induction calls generalizing events with
  | nil => rfl
  | cons call rest inductionHypothesis =>
    cases call with
    | push event =>
      rw [answers, answersSince, isSome_push?, push_ofEvents, inductionHypothesis]
    | drain =>
      rw [answers, answersSince]
      exact congrArg _ (inductionHypothesis [])

end Backlog

namespace Tracker

/-- The events of a run since its last tick, behind those that were announced before it. -/
def sinceTick (events : List Event) : List Input → List Event
  | [] => events
  | .event event :: inputs => sinceTick (events ++ [event]) inputs
  | .snapshot _ :: inputs => sinceTick [] inputs

/-- What waits in a tracker is the work of the events since its last tick. -/
theorem backlog_run [Pattern.Engine] (config : BarConfig) (inputs : List Input) :
    (run config inputs).backlog = Backlog.ofEvents (sinceTick [] inputs) := by
  have general : ∀ events (tracker : Tracker), tracker.backlog = Backlog.ofEvents events →
      (inputs.foldl accept tracker).backlog = Backlog.ofEvents (sinceTick events inputs) := by
    induction inputs with
    | nil => exact fun events tracker same => same
    | cons input rest inductionHypothesis =>
      intro events tracker same
      cases input with
      | event event =>
        refine inductionHypothesis _ (tracker.push event) ?_
        rw [← Backlog.push_ofEvents, ← same]
        rfl
      | snapshot snapshot => exact inductionHypothesis [] (tracker.tick snapshot) rfl
  exact general [] (ofConfig config) rfl

end Tracker

/-- Whatever is asked of a backlog and in whatever order, every batch that it gives away is the work
of the events since the batch before, and so is what waits for the next tick of any run. An event
is turned away exactly when it is one that makes no work, and then the backlog stays as it is. -/
theorem Backlog.answers_calls [Pattern.Engine] (calls : List Call) :
    answers {} calls = answersSince [] calls ∧
      (∀ (backlog : Backlog) (event : Event),
        backlog.push? event = none ↔ ∃ name payload, event = .other name payload) ∧
      (∀ (backlog : Backlog) (name payload : String),
        backlog.push (.other name payload) = backlog) ∧
      ∀ (config : BarConfig) (inputs : List Tracker.Input),
        (Tracker.run config inputs).backlog = ofEvents (Tracker.sinceTick [] inputs) :=
  ⟨answers_ofEvents [] calls, fun _ _ => push?_eq_none_iff, fun _ _ _ => rfl,
    Tracker.backlog_run⟩

end Deskbar
