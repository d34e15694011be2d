import WindowKeeper.Geometry
import WindowKeeper.Files.Path

namespace WindowKeeper

@[ext]
structure Config where
  appName : String
  workingDir : String
  /-- The directory of the logo images. -/
  assetsDir : String
  /-- The display scale in percent. -/
  scale : Int
  /-- The variant of the logo. -/
  iconId : Int
  nativeFrameSupported : Bool
  /-- Whether the window opens wide enough for three columns. -/
  thirdColumn : Bool
  /-- Whether closing the window hides it even without a tray. -/
  hidesOnClose : Bool
  leastSize : Size
  usualSize : Size
  bigSize : Size
  barHeight : Int
  /-- How long the window must rest before its placement is saved, in milliseconds. -/
  placementDelay : Nat
  /-- How long changed settings wait before they are written, in milliseconds. -/
  settingsDelay : Nat
  deriving DecidableEq, Repr, Inhabited

namespace Config

def initial : Config where
  appName := "Casement"
  workingDir := "."
  assetsDir := "assets"
  scale := 100
  iconId := 0
  nativeFrameSupported := true
  thirdColumn := false
  hidesOnClose := false
  leastSize := ⟨380, 480⟩
  usualSize := ⟨800, 600⟩
  bigSize := ⟨1280, 800⟩
  barHeight := 0
  placementDelay := 1000
  settingsDelay := 1000

/-- The size of a window that has no usable record. -/
def openingSize (c : Config) : Size := if c.thirdColumn then c.bigSize else c.usualSize

def settingsPath (c : Config) : String := Path.join c.workingDir "settings.json"

end Config

end WindowKeeper
