import WindowKeeper.Placement.Record

namespace WindowKeeper

/-- Where the program shows itself. -/
inductive WorkMode
  | windowAndTray
  | trayOnly
  | windowOnly
  deriving DecidableEq, Repr, Inhabited

def WorkMode.usesTray : WorkMode → Bool
  | .windowOnly => false
  | _ => true

@[ext]
structure Settings where
  placement : Placement
  workMode : WorkMode
  /-- Whether the system draws the frame of the window. -/
  nativeFrame : Bool
  deriving DecidableEq, Repr, Inhabited

def Settings.initial : Settings := ⟨.empty, .windowAndTray, false⟩

end WindowKeeper
