import WindowKeeper.Numeric.Shortest
import WindowKeeper.Placement.Rescale
import WindowKeeper.Placement.Restore
import WindowKeeper.Placement.Remember
import WindowKeeper.Widening
import WindowKeeper.Text.Printable
import WindowKeeper.Text.Quoted
import WindowKeeper.Json.Value
import WindowKeeper.Json.Fragment
import WindowKeeper.Json.Decoder
import WindowKeeper.Form.Config
import WindowKeeper.Form.Script
import WindowKeeper.Settings.Store
import WindowKeeper.Icon.Logo
import WindowKeeper.Script.Replay
import WindowKeeper.Session.Action
import WindowKeeper.CommandLine
import WindowKeeper.Main
import WindowKeeper.Proofs.Geometry.Within
import WindowKeeper.Proofs.Geometry.Span
import WindowKeeper.Proofs.Placement.Restored
import WindowKeeper.Proofs.Monitor.Nearest
import WindowKeeper.Proofs.Placement.OnScreen
import WindowKeeper.Proofs.Placement.Remembered
import WindowKeeper.Proofs.Placement.InPlace
import WindowKeeper.Proofs.Placement.BroughtIn
import WindowKeeper.Proofs.Session.Core
import WindowKeeper.Proofs.Session.Handled
import WindowKeeper.Proofs.Session.Queue
import WindowKeeper.Proofs.Session.Moved
import WindowKeeper.Proofs.Session.Alarms
import WindowKeeper.Proofs.Session.Steady
import WindowKeeper.Proofs.Session.ToSave
import WindowKeeper.Proofs.Script.LastMove
import WindowKeeper.Proofs.Json.Scanned
import WindowKeeper.Proofs.Json.Written
import WindowKeeper.Proofs.Json.Shaped
import WindowKeeper.Proofs.Form.Settings
import WindowKeeper.Proofs.Files.Steps
import WindowKeeper.Proofs.Files.Located
import WindowKeeper.Proofs.Files.Replaced
import WindowKeeper.Proofs.Settings.Saved
import WindowKeeper.Proofs.Placement.Ranged
import WindowKeeper.Proofs.Session.Tended
import WindowKeeper.Proofs.Session.Unsaved
import WindowKeeper.Proofs.Session.Course
import WindowKeeper.Proofs.Session.Calls
import WindowKeeper.Proofs.Session.Effects
import WindowKeeper.Proofs.Session.Recorded
import WindowKeeper.Proofs.Session.ColumnWidth
import WindowKeeper.Proofs.Session.Unmaximized
import WindowKeeper.Proofs.Session.Shutdown
import WindowKeeper.Proofs.Script.Played
import WindowKeeper.Proofs.Script.Gated
import WindowKeeper.Proofs.Script.Punctual
import WindowKeeper.Proofs.Session.Awaited
import WindowKeeper.Proofs.Placement.Shifted
import WindowKeeper.Proofs.Script.Burst
import WindowKeeper.Proofs.Session.Lull
import WindowKeeper.Proofs.Settings.Replaced
import WindowKeeper.Proofs.Settings.Interrupted
import WindowKeeper.Proofs.Json.Inverted
import WindowKeeper.Proofs.Settings.Flushed
import WindowKeeper.Proofs.Form.Geometry
import WindowKeeper.Proofs.Form.Config
import WindowKeeper.Proofs.Form.Script
import WindowKeeper.Proofs.Form.ReadBack
import WindowKeeper.Proofs.Session.Aware
import WindowKeeper.Proofs.Session.WithinReach
import WindowKeeper.Proofs.Json.CutOff
import WindowKeeper.Proofs.Settings.CutOff
import WindowKeeper.Proofs.Json.Document
import WindowKeeper.Proofs.Json.Parsed
import WindowKeeper.Proofs.Form.Listed
import WindowKeeper.Proofs.Placement.Replugged
import WindowKeeper.Proofs.Session.Opened
import WindowKeeper.Proofs.Session.View
import WindowKeeper.Proofs.Session.Recalled
import WindowKeeper.Proofs.CommandLine.SamePlace
import WindowKeeper.Proofs.Session.Drained
import WindowKeeper.Proofs.Session.Turns
import WindowKeeper.Proofs.Script.SplitWait
import WindowKeeper.Proofs.Icon.Pictures
import WindowKeeper.Proofs.Session.Emblem
import WindowKeeper.Proofs.Session.ShownIcon
import WindowKeeper.Proofs.Session.Tandem
import WindowKeeper.Proofs.Session.Lockstep
import WindowKeeper.Proofs.Placement.Corrected
import WindowKeeper.Proofs.Placement.Wide
import WindowKeeper.Proofs.Placement.InRange
import WindowKeeper.Proofs.Placement.Resaved
import WindowKeeper.Proofs.Geometry.Widened
import WindowKeeper.Proofs.Checksum.Division
import WindowKeeper.Proofs.Monitor.Neighbours
import WindowKeeper.Proofs.Icon.Darkened
import WindowKeeper.Proofs.Session.ColumnShown
import WindowKeeper.Proofs.Session.Titled
import WindowKeeper.Proofs.Session.TuckedAway
import WindowKeeper.Proofs.Numeric.Rounded
import WindowKeeper.Proofs.Numeric.Truncated
import WindowKeeper.Proofs.Placement.Rescaled
