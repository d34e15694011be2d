import WindowKeeper.Placement.Remember
import WindowKeeper.Settings.Basic

namespace WindowKeeper

/-- What the user did to the tray icon. -/
inductive TrayActivation
  | trigger
  | doubleClick
  | context
  | middleClick
  deriving DecidableEq, Repr, Inhabited

/-- What the window needs to know of the account that is signed in. -/
@[ext]
structure Account where
  supportMode : Bool
  /-- The width of the strip of chat folders. -/
  filtersWidth : Int
  deriving DecidableEq, Repr, Inhabited

inductive Event
  | moved
  | resized
  | stateChanged (state : WindowState)
  | visibleChanged (visible : Bool)
  | activeChanged
  | trayActivated (activation : TrayActivation)
  | unreadChanged (count : Nat)
  | workModeChanged (mode : WorkMode)
  | nativeFrameChanged (native : Bool)
  | iconChanged (id : Int)
  | accountChanged
  | placed
  | closeRequested
  | quit
  /-- The placement timer of this generation went off. -/
  | placementTimer (generation : UInt64)
  | settingsTimer (generation : UInt64)
  deriving DecidableEq, Repr, Inhabited

end WindowKeeper
