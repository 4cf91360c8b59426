/-
This file holds windows that are on their way into a workspace. A window is known by its
class and title until the rules have been applied to it, and by the resulting text from
then on; a title can be replaced only before.
-/

import Deskbar.Naming
import Deskbar.Rewriter

namespace Deskbar

/-- What is known about how a window is shown. -/
inductive Window.Appearance where
  | identity (windowClass title : String)
  | resolved (text : String)
  deriving DecidableEq, Inhabited

/-- A window that is to be placed. -/
structure Window where
  address : String
  /-- How the window refers to its workspace. -/
  workspace : String
  active : Bool
  /-- For how many ticks the window has waited for its workspace. -/
  age : UInt32
  appearance : Window.Appearance
  deriving DecidableEq, Inhabited

namespace Window

/-- A window with an appearance on a workspace with a raw name. -/
def appearing (workspace address : String) (appearance : Appearance) : Window :=
  { address := plainAddress address
    workspace := workspaceReference workspace
    active := false
    age := 0
    appearance := appearance }

/-- A window whose text is known. -/
def ofText (workspace address text : String) : Window :=
  appearing workspace address (.resolved text)

/-- A window whose class and title are known. -/
def ofIdentity (workspace address windowClass title : String) : Window :=
  appearing workspace address (.identity windowClass title)

/-- Sends a window to another workspace. -/
def sendTo (window : Window) (workspace : String) : Window :=
  { window with workspace := workspaceReference workspace }

/-- Replaces the title of a window whose text is not known yet. -/
def retitle? (window : Window) (title : String) : Option Window :=
  match window.appearance with
  | .identity windowClass _ =>
    some { window with appearance := .identity windowClass title }
  | .resolved _ => none

/-- Says whether a window has the focus. -/
def withFocus (window : Window) (active : Bool) : Window := { window with active := active }

/-- The text for a window. -/
def text (rewriter : Rewriter) (window : Window) : String :=
  match window.appearance with
  | .identity windowClass title => rewriter.windowText windowClass title
  | .resolved text => text

/-- The window with its text made out. -/
def resolve (rewriter : Rewriter) (window : Window) : Window :=
  { window with appearance := .resolved (window.text rewriter) }

/-- Whether a window has no class, and no title either where titles count. -/
def isBlank (readsTitle : Bool) (window : Window) : Bool :=
  match window.appearance with
  | .identity windowClass title => windowClass.isEmpty && (!readsTitle || title.isEmpty)
  | .resolved _ => false

/-- The window a tick later. -/
def grow (window : Window) : Window := { window with age := window.age + 1 }

end Window

end Deskbar
