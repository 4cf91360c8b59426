/-
This file says where the texts of windows come from. A text on a workspace was made from a class and
a title under which the run has presented its window, and there is something to show for a window
under that class and that title: neither is the text empty, nor does the window lack a class, and a
title where titles count. Workspaces see to this when they take a window in.

They do not when the title of a window that is shown changes: the new text is put in place of the
old one, whatever it is. That is the only way in which a text without anything to show gets onto a
workspace.

A removed workspace gives its windows back under addresses that have lost a lead. What a run
presents a window under is therefore counted by the address without any leads.
-/

import Deskbar.Proofs.Appearance
import Deskbar.Proofs.Keeping
import Deskbar.Proofs.Pieces

namespace Deskbar

/-! ### Addresses without leads -/

/-- A text without any of the leads in front of it that replies write. -/
def withoutLeads : List Char → List Char
  | '0' :: 'x' :: rest => withoutLeads rest
  | text => text

/-- An address without any of the leads in front of it. -/
def bareAddress (address : String) : String := String.ofList (withoutLeads address.toList)

theorem bareAddress_plainAddress (address : String) :
    bareAddress (plainAddress address) = bareAddress address := by
  rw [plainAddress]
  split
  · next rest found =>
    rw [bareAddress, bareAddress, String.toList_ofList, Text.afterLead_eq_some_iff.mp found]
    rfl
  · rfl

theorem bareAddress_of_plain {address : String} (plain : plainAddress address = address) :
    bareAddress address = address := by
  rw [plainAddress] at plain
  split at plain
  · next rest found =>
    have shorter := congrArg String.toList plain
    rw [String.toList_ofList, Text.afterLead_eq_some_iff.mp found] at shorter
    have counted := congrArg List.length shorter
    rw [List.length_append, List.length_cons] at counted
    omega
  · next unled =>
    rw [bareAddress, withoutLeads.eq_def]
    split
    · next rest led =>
      rw [led] at unled
      cases unled
    · exact String.ofList_toList

/-- An address as the compositor writes it has no more than one lead. -/
theorem IsAddress.bareAddress_eq {address : String} (isAddress : IsAddress address) :
    bareAddress address = plainAddress address := by
  rw [← bareAddress_plainAddress, bareAddress_of_plain isAddress.plainAddress_plainAddress]

/-- What there is to show for a window hangs on its appearance alone. -/
theorem Window.isLeftOut_of_identity (rewriter : Rewriter) {window : Window}
    {windowClass title : String} (appearance : window.appearance = .identity windowClass title) :
    window.isLeftOut rewriter = !rewriter.shows windowClass title := by
  rw [← isLeftOut_ofIdentity rewriter window.workspace window.address]
  rw [isLeftOut, isBlank, text, appearance]
  rfl

namespace Tracker

/-! ### Classes and titles -/

/-- The classes and titles under which a run presents the windows with a bare address: those of the
reports and of the openings, and each class then with every title that is announced or reported for
such a window. -/
inductive Presents (inputs : List Input) (bare : String) : String → String → Prop where
  | reported {snapshot : Snapshot} {report : ReportedWindow} (listed : .snapshot snapshot ∈ inputs)
      (member : report ∈ snapshot.windows) (itsOwn : bareAddress report.address = bare) :
    Presents inputs bare report.windowClass report.title
  | opened {other target windowClass title : String}
      (announced : .event (.window (.opened other target windowClass title)) ∈ inputs)
      (itsOwn : bareAddress other = bare) :
    Presents inputs bare windowClass title
  | retitled {other windowClass former title : String}
      (before : Presents inputs bare windowClass former)
      (announced : .event (.window (.retitled other (some title))) ∈ inputs)
      (itsOwn : bareAddress other = bare) :
    Presents inputs bare windowClass title
  | refreshed {windowClass former : String} {snapshot : Snapshot} {report : ReportedWindow}
      (before : Presents inputs bare windowClass former) (listed : .snapshot snapshot ∈ inputs)
      (member : report ∈ snapshot.windows) (itsOwn : bareAddress report.address = bare) :
    Presents inputs bare windowClass report.title

theorem Presents.mono {inputs more : List Input} {bare windowClass title : String}
    (presents : Presents inputs bare windowClass title) (fewer : inputs ⊆ more) :
    Presents more bare windowClass title := by
  induction presents with
  | reported listed member itsOwn => exact .reported (fewer listed) member itsOwn
  | opened announced itsOwn => exact .opened (fewer announced) itsOwn
  | retitled _ announced itsOwn inductionHypothesis =>
    exact .retitled inductionHypothesis (fewer announced) itsOwn
  | refreshed _ listed member itsOwn inductionHypothesis =>
    exact .refreshed inductionHypothesis (fewer listed) member itsOwn

/-- Every change of a window that waits at the end of a run was announced in it. -/
theorem announced_of_waiting [Pattern.Engine] (config : BarConfig) {inputs : List Input}
    {change : WindowChange}
    (waits : change ∈ (run config inputs).backlog.windows) : .event (.window change) ∈ inputs := by
  induction inputs using List.reverseRecOn with
  | nil => exact absurd waits List.not_mem_nil
  | append_singleton before input inductionHypothesis =>
    rw [run_append] at waits
    cases input with
    | event event =>
      rcases Backlog.mem_windows_push waits with old | rfl
      · exact List.mem_append_left _ (inductionHypothesis old)
      · exact List.mem_append_right _ (List.mem_singleton.mpr rfl)
    | snapshot snapshot => exact absurd waits List.not_mem_nil

/-! ### What there is to show -/

/-- What windows may look like in a run: as the run presents them, or as a text that was made from
such a class and title and under which there is something to show. -/
def Founded (rewriter : Rewriter) (inputs : List Input) (address : String) :
    Window.Appearance → Prop
  | .identity windowClass title => Presents inputs (bareAddress address) windowClass title
  | .resolved text =>
    ∃ windowClass title, Presents inputs (bareAddress address) windowClass title ∧
      rewriter.shows windowClass title = true ∧ text = rewriter.windowText windowClass title

theorem Founded.mono {rewriter : Rewriter} {inputs more : List Input} {address : String}
    {appearance : Window.Appearance} (founded : Founded rewriter inputs address appearance)
    (fewer : inputs ⊆ more) : Founded rewriter more address appearance := by
  cases appearance with
  | identity windowClass title => exact Presents.mono founded fewer
  | resolved text =>
    obtain ⟨windowClass, title, presents, shows, same⟩ := founded
    exact ⟨windowClass, title, presents.mono fewer, shows, same⟩

theorem respects_founded (rewriter : Rewriter) (inputs : List Input) :
    rewriter.Respects (Founded rewriter inputs) where
  plain {address appearance} founded := by
    cases appearance with
    | identity windowClass title =>
      rwa [Founded, bareAddress_plainAddress]
    | resolved text =>
      rwa [Founded, bareAddress_plainAddress]
  resolved {window} shown founded := by
    rw [Window.text]
    cases appearance : window.appearance with
    | identity windowClass title =>
      rw [appearance] at founded
      rw [Window.isLeftOut_of_identity rewriter appearance, Bool.not_eq_false'] at shown
      exact ⟨windowClass, title, founded, shown, rfl⟩
    | resolved text =>
      rw [appearance] at founded
      exact founded

/-- Whenever a tick that carries on brings a title to a window that is on a workspace then, there is
something to show for the window under its reported class and that title. -/
def RetitlesShowably (tracker : Tracker) (snapshot : Snapshot) : Prop :=
  tracker.startsOver = false →
    ∀ earlier address title later,
      tracker.backlog.windows = earlier ++ .retitled address title :: later →
        ∀ key report,
          (tracker.midway snapshot earlier).ownerOf? address = some (.workspace key) →
          snapshot.window? (plainAddress address) = some report →
            tracker.bar.rewriter.shows report.windowClass (title.getD report.title) = true

theorem mem_of_window? {snapshot : Snapshot} {address : String} {report : ReportedWindow}
    (found : snapshot.window? (plainAddress address) = some report) :
    report ∈ snapshot.windows ∧ bareAddress report.address = bareAddress address := by
  have passed := List.find?_some found
  have itsOwn : plainAddress report.address = plainAddress address := of_decide_eq_true passed
  refine ⟨List.mem_of_find?_eq_some found, ?_⟩
  rw [← bareAddress_plainAddress, itsOwn, bareAddress_plainAddress]

/-- What a change brings was presented in the run, and if it is a title for a window on a workspace,
there is something to show. -/
theorem brings_founded {inputs : List Input} {tracker : Tracker} {snapshot : Snapshot}
    (listed : .snapshot snapshot ∈ inputs)
    (announced : ∀ change ∈ tracker.backlog.windows, .event (.window change) ∈ inputs)
    (carriesOn : tracker.startsOver = false) (showable : tracker.RetitlesShowably snapshot)
    {earlier later : List WindowChange} {change : WindowChange}
    (split : tracker.backlog.windows = earlier ++ change :: later) :
    (tracker.midway snapshot earlier).Brings (Founded tracker.bar.rewriter inputs)
      tracker.bar.rewriter snapshot change := by
  have heard : .event (.window change) ∈ inputs :=
    announced change (split ▸ List.mem_append_right _ List.mem_cons_self)
  cases change with
  | opened address target windowClass title =>
    exact .opened heard (bareAddress_plainAddress address).symm
  | retitled address title =>
    refine ⟨fun key report owned found => ?_, fun windowClass former replaced founded known => ?_⟩
    · obtain ⟨member, itsOwn⟩ := mem_of_window? found
      rw [← bareAddress_plainAddress address] at itsOwn
      have presents := Presents.reported listed member itsOwn
      refine ⟨report.windowClass, title.getD report.title, ?_,
        showable carriesOn earlier address title later split key report owned found, rfl⟩
      cases title with
      | none => exact presents
      | some title => exact presents.retitled heard (bareAddress_plainAddress address).symm
    · have before : Presents inputs (bareAddress (plainAddress address)) windowClass former :=
        founded
      cases title with
      | some title =>
        obtain rfl : title = replaced := Option.some.inj known
        exact before.retitled heard (bareAddress_plainAddress address).symm
      | none =>
        obtain ⟨report, found, rfl⟩ := Option.map_eq_some_iff.mp known
        obtain ⟨member, itsOwn⟩ := mem_of_window? found
        rw [← bareAddress_plainAddress address] at itsOwn
        exact before.refreshed listed member itsOwn
  | _ => trivial

theorem founded_run [Pattern.Engine] (config : BarConfig) {inputs : List Input}
    (showable : EveryTick RetitlesShowably (ofConfig config) inputs) :
    (run config inputs).model.Looks (Founded (Bar.ofConfig config).rewriter inputs) := by
  induction inputs using List.reverseRecOn with
  | nil => exact Model.Looks.cleared Model.empty
  | append_singleton before input inductionHypothesis =>
    obtain ⟨earlier, last⟩ := EveryTick.append_iff.mp showable
    have looks := inductionHypothesis earlier
    have longer : before ⊆ before ++ [input] := List.subset_append_left before [input]
    have looksToo : (run config before).model.Looks
        (Founded (Bar.ofConfig config).rewriter (before ++ [input])) :=
      looks.mono fun founded => founded.mono longer
    rw [run_append]
    cases input with
    | event event => exact looksToo
    | snapshot snapshot =>
      have listed : .snapshot snapshot ∈ before ++ [.snapshot snapshot] :=
        List.mem_append_right _ (List.mem_singleton.mpr rfl)
      rw [← bar_run config before] at looksToo ⊢
      refine looks_nextModel looksToo (respects_founded _ _) (fun report member => ?_)
        fun carriesOn earlier change later split => ?_
      · exact .reported listed member (bareAddress_plainAddress report.address).symm
      · exact brings_founded listed
          (fun change waits => longer (announced_of_waiting config waits)) carriesOn last.1 split

/-- At the end of every run in which titles are brought to windows on workspaces only when there is
something to show for the window then, no workspace has an empty text. Every text was made from a
class and a title under which the run has presented the window with that address and under which
workspaces take windows in: there is a class, or a title where titles count, and a text. -/
theorem presented_run [Pattern.Engine] (config : BarConfig) {inputs : List Input}
    (showable : EveryTick RetitlesShowably (ofConfig config) inputs) {key : Nat}
    {address text : String}
    (shown : (run config inputs).model.textOn? key address = some text) :
    text ≠ "" ∧ ∃ windowClass title,
      Presents inputs (bareAddress address) windowClass title ∧
        (∀ workspace, (Window.ofIdentity workspace address windowClass title).isBlank
          (Bar.ofConfig config).rewriter.readsTitle = false) ∧
        text = (Bar.ofConfig config).rewriter.windowText windowClass title := by
  obtain ⟨windowClass, title, presents, shows, rfl⟩ := (founded_run config showable).shown shown
  rw [Rewriter.shows, Bool.and_eq_true, Bool.not_eq_true', Bool.not_eq_true'] at shows
  obtain ⟨identified, visible⟩ := shows
  refine ⟨fun empty => ?_, windowClass, title, presents, fun _ => identified, rfl⟩
  rw [empty] at visible
  cases visible

/-- A bar that shows windows by their titles. -/
def titledConfig : BarConfig := { fallback := Rewriter.titleToken }

/-- A report of a workspace with one window under a class and a title. -/
def titledSnapshot (windowClass title : String) : Snapshot :=
  { workspaces := [{ id := 1, name := "1", windows := 1 }]
    windows := [{ address := "0xcd", windowClass := windowClass, title := title,
                  workspace := ⟨1, "1"⟩ }] }

/-- A window on a workspace gets a title before a tick on a snapshot. -/
def titledRun (title : String) (snapshot : Snapshot) : List Input :=
  [.snapshot (titledSnapshot "term" "shell"), .event (.window (.retitled "cd" (some title))),
    .snapshot snapshot]

theorem presented_run_titledRun :
    let inputs := titledRun "notes" (titledSnapshot "term" "shell")
    EveryTick RetitlesShowably (ofConfig titledConfig) inputs ∧
      (run titledConfig inputs).model.textOn? 1 "cd" = some "notes" ∧ "notes" ≠ "" ∧
        ∃ windowClass title, Presents inputs (bareAddress "cd") windowClass title ∧
          (∀ workspace, (Window.ofIdentity workspace "cd" windowClass title).isBlank
            (Bar.ofConfig titledConfig).rewriter.readsTitle = false) ∧
          "notes" = (Bar.ofConfig titledConfig).rewriter.windowText windowClass title := by
  intro inputs
  have listed : (titledSnapshot "term" "shell").window? (plainAddress "cd") =
      some { address := "0xcd", windowClass := "term", title := "shell",
             workspace := ⟨1, "1"⟩ } := by decide
  have showable : EveryTick RetitlesShowably (ofConfig titledConfig) inputs := by
    refine ⟨fun carriesOn => absurd carriesOn (by decide), ?_, trivial⟩
    intro _ earlier address title later split key report _ found
    obtain ⟨-, only⟩ | ⟨-, nothing⟩ := List.append_eq_singleton_iff.mp split.symm
    · obtain ⟨rfl, rfl⟩ := WindowChange.retitled.inj (List.cons.inj only).1
      rw [Option.some.inj (found.symm.trans listed)]
      decide
    · cases nothing
  have shown : (run titledConfig inputs).model.textOn? 1 "cd" = some "notes" := by decide
  exact ⟨showable, shown, presented_run titledConfig showable shown⟩

/-- A window on a workspace gets an empty title, and an empty text stands on the workspace. It gets
another title while the snapshot has no class for it, and its text stands on the workspace although
the window has no class and titles do not count. A workspace would not take in either of them. -/
theorem not_presented_untitled :
    let rewriter := (Bar.ofConfig titledConfig).rewriter
    (run titledConfig (titledRun "" (titledSnapshot "term" "shell"))).model.textOn? 1 "cd" =
        some "" ∧
      (Window.ofIdentity "1" "cd" "term" "").isLeftOut rewriter = true ∧
    (run titledConfig (titledRun "notes" (titledSnapshot "" "shell"))).model.textOn? 1 "cd" =
        some "notes" ∧
      (Window.ofIdentity "1" "cd" "" "notes").isBlank rewriter.readsTitle = true := by
  decide

end Tracker

end Deskbar
