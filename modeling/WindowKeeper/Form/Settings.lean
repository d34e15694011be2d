import WindowKeeper.Form.Geometry
import WindowKeeper.Session.Event

namespace WindowKeeper

open Json

/-- The name of an alternative. -/
def nameIn {α : Type} [DecidableEq α] (c : Choice α) (a : α) : String :=
  ((c.find? fun p => p.2 = a).map (·.1)).getD ""

def WindowState.choice : Choice WindowState :=
  [("normal", .normal), ("minimized", .minimized), ("maximized", .maximized),
    ("fullscreen", .fullscreen)]

def WindowState.toJson (s : WindowState) : Json := .text (nameIn choice s)

def WorkMode.choice : Choice WorkMode :=
  [("window_and_tray", .windowAndTray), ("tray_only", .trayOnly), ("window_only", .windowOnly)]

def WorkMode.toJson (m : WorkMode) : Json := .text (nameIn choice m)

def TrayActivation.choice : Choice TrayActivation :=
  [("trigger", .trigger), ("double_click", .doubleClick), ("context", .context),
    ("middle_click", .middleClick)]

def TrayActivation.toJson (a : TrayActivation) : Json := .text (nameIn choice a)

def Account.shape : Shape Account where
  title := "struct SessionInfo"
  blank := ⟨false, 0⟩
  fields := [
    .of "support_mode" .defaulted Decoder.boolean fun v a => { a with supportMode := v },
    .of "filters_width" .defaulted Decoder.int32 fun v a => { a with filtersWidth := v }]

def Account.toJson (a : Account) : Json := .object [
  ("support_mode", .boolean a.supportMode), ("filters_width", .integer a.filtersWidth)]

def Placement.shape : Shape Placement where
  title := "struct WindowPosition"
  blank := .empty
  fields := [
    .of "x" .defaulted Decoder.int32 fun v p => { p with x := v },
    .of "y" .defaulted Decoder.int32 fun v p => { p with y := v },
    .of "w" .defaulted Decoder.int32 fun v p => { p with w := v },
    .of "h" .defaulted Decoder.int32 fun v p => { p with h := v },
    .of "scale" .defaulted Decoder.int32 fun v p => { p with scale := v },
    .of "maximized" .defaulted Decoder.boolean fun v p => { p with maximized := v },
    .of "monitor_checksum" .defaulted Decoder.uint32 fun v p =>
      { p with monitor := UInt32.ofNat v }]

def Placement.toJson (p : Placement) : Json := .object [
  ("x", .integer p.x), ("y", .integer p.y), ("w", .integer p.w), ("h", .integer p.h),
  ("scale", .integer p.scale), ("maximized", .boolean p.maximized),
  ("monitor_checksum", .integer p.monitor.toNat)]

def Settings.shape : Shape Settings where
  title := "struct Settings"
  blank := .initial
  fields := [
    .of "window_position" .defaulted Placement.shape.decoder fun v s => { s with placement := v },
    .of "work_mode" .defaulted WorkMode.choice.decoder fun v s => { s with workMode := v },
    .of "native_window_frame" .defaulted Decoder.boolean fun v s => { s with nativeFrame := v }]

def Settings.toJson (s : Settings) : Json := .object [
  ("window_position", s.placement.toJson), ("work_mode", s.workMode.toJson),
  ("native_window_frame", .boolean s.nativeFrame)]

def Settings.ofText (t : String) : Except Fault Settings := decodeText Settings.shape.decoder t

def Settings.toText (s : Settings) : String := s.toJson.pretty

end WindowKeeper
