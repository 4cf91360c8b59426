/-
This file holds the runs of a tracker. A run is any sequence of events, which only make work,
and of snapshots, each of which is a tick. What is true of a tracker that has been told nothing
and is kept by every event and by every tick is true at the end of every run.

The compositor writes the address of a window with hexadecimal digits, and replies put a lead in
front of them. The lead cannot be read as digits, so such an address without its lead has no
other lead behind it, and taking leads away once more changes nothing.
-/

import Mathlib.Data.List.Induction
import Deskbar.Tracker
import Deskbar.Proofs.Pieces

namespace Deskbar

/-- What a tracker is given: an event to keep, or a snapshot to come in step with. -/
inductive Tracker.Input where
  | event (event : Event)
  | snapshot (snapshot : Snapshot)

namespace Tracker

/-- Takes in an event, or comes in step with a snapshot. -/
def accept (tracker : Tracker) : Input → Tracker
  | .event event => tracker.push event
  | .snapshot snapshot => tracker.tick snapshot

/-- A tracker at the end of a run. -/
def run [Pattern.Engine] (config : BarConfig) (inputs : List Input) : Tracker :=
  inputs.foldl accept (ofConfig config)

theorem run_append [Pattern.Engine] (config : BarConfig) (inputs : List Input) (input : Input) :
    run config (inputs ++ [input]) = (run config inputs).accept input := List.foldl_append

/-- A run goes on from where it was left. -/
theorem run_resume [Pattern.Engine] (config : BarConfig) (inputs later : List Input) :
    run config (inputs ++ later) = later.foldl accept (run config inputs) := List.foldl_append

/-- What every input of a run keeps is true at its end. -/
theorem run_induction [Pattern.Engine] {motive : Tracker → Prop} {config : BarConfig}
    {inputs : List Input}
    (start : motive (ofConfig config))
    (step : ∀ tracker, motive tracker → ∀ input ∈ inputs, motive (tracker.accept input)) :
    motive (run config inputs) :=
  List.foldlRecOn inputs accept start step

/-- A tracker never changes the configuration of its bar. -/
theorem bar_run [Pattern.Engine] (config : BarConfig) (inputs : List Input) :
    (run config inputs).bar = Bar.ofConfig config := by
  refine run_induction (motive := fun tracker => tracker.bar = Bar.ofConfig config) rfl
    fun tracker kept input _ => ?_
  cases input with
  | event event => exact kept
  | snapshot snapshot => exact kept

/-- Whether something is true of the tracker and the snapshot at every tick of a run from a tracker
on. -/
def EveryTick (condition : Tracker → Snapshot → Prop) : Tracker → List Input → Prop
  | _, [] => True
  | tracker, .event event :: rest => EveryTick condition (tracker.push event) rest
  | tracker, .snapshot snapshot :: rest =>
    condition tracker snapshot ∧ EveryTick condition (tracker.tick snapshot) rest

namespace EveryTick

variable {condition : Tracker → Snapshot → Prop} {tracker : Tracker} {inputs : List Input}

theorem append_iff {later : List Input} :
    EveryTick condition tracker (inputs ++ later) ↔
      EveryTick condition tracker inputs ∧
        EveryTick condition (inputs.foldl accept tracker) later := by
  induction inputs generalizing tracker with
  | nil => exact (and_iff_right trivial).symm
  | cons input rest inductionHypothesis =>
    cases input with
    | event event => exact inductionHypothesis
    | snapshot snapshot => exact (and_congr_right fun _ => inductionHypothesis).trans and_assoc.symm

theorem mono {weaker : Tracker → Snapshot → Prop} (every : EveryTick condition tracker inputs)
    (implied : ∀ tracker snapshot, condition tracker snapshot → weaker tracker snapshot) :
    EveryTick weaker tracker inputs := by
  induction inputs generalizing tracker with
  | nil => trivial
  | cons input rest inductionHypothesis =>
    cases input with
    | event event => exact inductionHypothesis every
    | snapshot snapshot => exact ⟨implied _ _ every.1, inductionHypothesis every.2⟩

theorem and {other : Tracker → Snapshot → Prop} (every : EveryTick condition tracker inputs)
    (everyOther : EveryTick other tracker inputs) :
    EveryTick (fun tracker snapshot => condition tracker snapshot ∧ other tracker snapshot) tracker
      inputs := by
  induction inputs generalizing tracker with
  | nil => trivial
  | cons input rest inductionHypothesis =>
    cases input with
    | event event => exact inductionHypothesis every everyOther
    | snapshot snapshot =>
      exact ⟨⟨every.1, everyOther.1⟩, inductionHypothesis every.2 everyOther.2⟩

/-- The condition is true of the last tick. -/
theorem last [Pattern.Engine] {config : BarConfig} {snapshot : Snapshot}
    (every : EveryTick condition (ofConfig config) (inputs ++ [.snapshot snapshot])) :
    condition (run config inputs) snapshot := (append_iff.mp every).2.1

/-- What is true of a tracker that has been told nothing, is kept by every event, and is kept by
every tick when a condition is true of it and of the ticks before, is true at the end of every run
in which the condition is true of every tick. -/
theorem run_induction [Pattern.Engine] {config : BarConfig} {motive : Tracker → Prop}
    (start : motive (ofConfig config))
    (push : ∀ tracker event, motive tracker → motive (tracker.push event))
    (tick : ∀ before snapshot, motive (run config before) →
      EveryTick condition (ofConfig config) (before ++ [.snapshot snapshot]) →
      motive ((run config before).tick snapshot))
    {inputs : List Input} (every : EveryTick condition (ofConfig config) inputs) :
    motive (run config inputs) := by
  induction inputs using List.reverseRecOn with
  | nil => exact start
  | append_singleton before input inductionHypothesis =>
    have reached := inductionHypothesis (append_iff.mp every).1
    cases input with
    | event event =>
      rw [run_append]
      exact push _ event reached
    | snapshot snapshot =>
      rw [run_append]
      exact tick before snapshot reached every

end EveryTick

end Tracker

/-! ### Addresses -/

/-- Whether a text is an address as the compositor writes it: hexadecimal digits, in front of
which one lead may stand. -/
def IsAddress (text : String) : Prop :=
  ∃ digits : List Char, (∀ digit ∈ digits, (Text.hexDigitValue? digit).isSome) ∧
    (text = String.ofList digits ∨ text = String.ofList ('0' :: 'x' :: digits))

theorem afterLead_digits {digits : List Char}
    (hexadecimal : ∀ digit ∈ digits, (Text.hexDigitValue? digit).isSome) :
    Text.afterLead ['0', 'x'] digits = none := by
  refine Text.afterLead_eq_none_iff.mpr fun led => ?_
  have mark : 'x' ∈ digits := led.subset (by simp)
  exact absurd (hexadecimal 'x' mark) (by decide)

theorem plainAddress_digits {digits : List Char}
    (hexadecimal : ∀ digit ∈ digits, (Text.hexDigitValue? digit).isSome) :
    plainAddress (String.ofList digits) = String.ofList digits := by
  rw [plainAddress, String.toList_ofList, afterLead_digits hexadecimal]

/-- An address without its lead has no lead. -/
theorem IsAddress.plainAddress_plainAddress {address : String} (isAddress : IsAddress address) :
    plainAddress (plainAddress address) = plainAddress address := by
  obtain ⟨digits, hexadecimal, plain | led⟩ := isAddress
  · rw [plain, plainAddress_digits hexadecimal, plainAddress_digits hexadecimal]
  · have stripped : plainAddress address = String.ofList digits := by
      rw [led, plainAddress, String.toList_ofList]
      rfl
    rw [stripped, plainAddress_digits hexadecimal]

/-- The address of the window that a change is about. The focus may go to no window. -/
def WindowChange.address? : WindowChange → Option String
  | .opened address _ _ _ => some address
  | .closed address => some address
  | .moved address _ => some address
  | .retitled address _ => some address
  | .urgent address => some address
  | .focused address => address

/-- The addresses that an input speaks of. -/
def Tracker.Input.addresses : Tracker.Input → List String
  | .event (.window change) => change.address?.toList
  | .event _ => []
  | .snapshot reports => reports.windows.map ReportedWindow.address

/-- Whether all the addresses in inputs are as the compositor writes them. -/
def Tracker.AreAddressed (inputs : List Tracker.Input) : Prop :=
  ∀ input ∈ inputs, ∀ address ∈ input.addresses, IsAddress address

namespace Tracker

/-- A report of one workspace with one window. -/
def sampleSnapshot : Snapshot :=
  { workspaces := [{ id := 1, name := "1", windows := 1 }]
    windows := [{ address := "0xcd", windowClass := "term", workspace := ⟨1, "1"⟩ }] }

/-- A run in which a window is opened on a workspace that is not reported. -/
def sampleRun : List Input :=
  [.snapshot sampleSnapshot, .event (.window (.opened "ab" "2" "editor" "notes")),
    .snapshot sampleSnapshot]

theorem isAddress_reported : IsAddress "0xcd" :=
  ⟨['c', 'd'], List.all_eq_true.mp (by decide), Or.inr rfl⟩

theorem isAddress_plain : IsAddress "cd" :=
  ⟨['c', 'd'], List.all_eq_true.mp (by decide), Or.inl rfl⟩

theorem isAddress_announced : IsAddress "ab" :=
  ⟨['a', 'b'], List.all_eq_true.mp (by decide), Or.inl rfl⟩

theorem areAddressed_sampleRun : AreAddressed sampleRun := by
  have addresses : IsAddress "0xcd" ∧ IsAddress "ab" ∧ IsAddress "0xcd" :=
    ⟨isAddress_reported, isAddress_announced, isAddress_reported⟩
  simpa [AreAddressed, sampleRun, sampleSnapshot, Input.addresses, WindowChange.address?] using
    addresses

end Tracker

end Deskbar
