import WindowKeeper.Config
import WindowKeeper.Session.Timer
import WindowKeeper.Session.Window
import WindowKeeper.Settings.Store

namespace WindowKeeper

/-- What the window asked of the part of the program that holds its content. -/
@[ext]
structure Requests where
  focuses : Nat
  blurs : Nat
  listShown : Nat
  windowShown : Nat
  /-- The values that the activity of the window took, in order. -/
  activity : List Bool
  deriving DecidableEq, Repr

def Requests.empty : Requests := ⟨0, 0, 0, 0, []⟩

/-- What was shown by the tray icon attached last. -/
@[ext]
structure Tray where
  tooltip : String
  tooltipsShown : Nat
  deriving DecidableEq, Repr

/-- One window, the store of its settings, the files, and the events that wait to be handled. -/
@[ext]
structure Session (σ : Type) where
  window : Window
  store : σ
  files : Tree
  account : Option Account
  requests : Requests
  config : Config
  iconId : Int
  quitting : Bool
  unread : Nat
  trayAttached : Bool
  tray : Tray
  placementTimer : Timer
  settingsTimer : Timer
  /-- Whether the position of the window means anything yet. -/
  placed : Bool
  active : Bool
  maximizedBeforeHide : Bool
  /-- The icon made last, with the account's mode and the variant that it was made for. -/
  icon : Option Icon
  iconSupport : Bool
  iconShown : Int
  rightColumn : Option Int
  /-- The area available on the monitor of the window, and when it was looked up. -/
  desktop : Option (Nat × Rect)
  queue : List Event
  clock : Clock Event
  deriving Repr

/-- An overflow, and the session as it stood. -/
structure Halt (σ : Type) where
  overflow : Overflow
  session : Session σ

abbrev Outcome (σ α : Type) := Except (Halt σ) α

namespace Session

variable {σ : Type}

/-- A session before its window is set up. -/
def start (window : Window) (store : σ) (files : Tree) (config : Config) : Session σ where
  window := window
  store := store
  files := files
  account := none
  requests := .empty
  config := config
  iconId := config.iconId
  quitting := false
  unread := 0
  trayAttached := false
  tray := ⟨"", 0⟩
  placementTimer := .withDelay config.placementDelay
  settingsTimer := .withDelay config.settingsDelay
  placed := false
  active := false
  maximizedBeforeHide := false
  icon := none
  iconSupport := false
  iconShown := config.iconId
  rightColumn := none
  desktop := none
  queue := []
  clock := .start

/-- Gives a computed value, or halts. -/
def attempt {α : Type} (s : Session σ) (x : Except Overflow α) : Outcome σ α :=
  x.mapError fun o => ⟨o, s⟩

def send (s : Session σ) (e : Event) : Session σ := { s with queue := s.queue ++ [e] }

/-- Changes the window and queues the notifications. -/
def onWindow (s : Session σ) (f : Window → Window × List Event) : Session σ :=
  let (w, es) := f s.window
  { s with window := w, queue := s.queue ++ es }

def callPlacementTimer (s : Session σ) : Session σ :=
  let (t, c) := s.placementTimer.call .placementTimer s.clock
  { s with placementTimer := t, clock := c }

def cancelPlacementTimer (s : Session σ) : Session σ :=
  let (t, c) := s.placementTimer.cancel .placementTimer s.clock
  { s with placementTimer := t, clock := c }

def callSettingsTimer (s : Session σ) : Session σ :=
  let (t, c) := s.settingsTimer.call .settingsTimer s.clock
  { s with settingsTimer := t, clock := c }

def cancelSettingsTimer (s : Session σ) : Session σ :=
  let (t, c) := s.settingsTimer.cancel .settingsTimer s.clock
  { s with settingsTimer := t, clock := c }

def columnWidth (s : Session σ) : Int := s.rightColumn.getD 0

end Session

end WindowKeeper
