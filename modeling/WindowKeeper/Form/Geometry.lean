import WindowKeeper.Json.Decoder
import WindowKeeper.Json.Value
import WindowKeeper.Monitor

namespace WindowKeeper

open Json

def Point.shape : Shape Point where
  title := "struct Point"
  blank := ⟨0, 0⟩
  fields := [
    .of "x" .required Decoder.int32 fun v p => { p with x := v },
    .of "y" .required Decoder.int32 fun v p => { p with y := v }]

def Point.toJson (p : Point) : Json := .object [("x", .integer p.x), ("y", .integer p.y)]

def Size.shape : Shape Size where
  title := "struct Size"
  blank := ⟨0, 0⟩
  fields := [
    .of "w" .required Decoder.int32 fun v s => { s with w := v },
    .of "h" .required Decoder.int32 fun v s => { s with h := v }]

def Size.toJson (s : Size) : Json := .object [("w", .integer s.w), ("h", .integer s.h)]

def Margins.shape : Shape Margins where
  title := "struct Margins"
  blank := .none
  fields := [
    .of "left" .required Decoder.int32 fun v m => { m with left := v },
    .of "top" .required Decoder.int32 fun v m => { m with top := v },
    .of "right" .required Decoder.int32 fun v m => { m with right := v },
    .of "bottom" .required Decoder.int32 fun v m => { m with bottom := v }]

def Margins.toJson (m : Margins) : Json := .object [
  ("left", .integer m.left), ("top", .integer m.top),
  ("right", .integer m.right), ("bottom", .integer m.bottom)]

def Rect.shape : Shape Rect where
  title := "struct Rect"
  blank := ⟨0, 0, 0, 0⟩
  fields := [
    .of "x" .required Decoder.int32 fun v r => { r with x := v },
    .of "y" .required Decoder.int32 fun v r => { r with y := v },
    .of "w" .required Decoder.int32 fun v r => { r with w := v },
    .of "h" .required Decoder.int32 fun v r => { r with h := v }]

def Rect.toJson (r : Rect) : Json := .object [
  ("x", .integer r.x), ("y", .integer r.y), ("w", .integer r.w), ("h", .integer r.h)]

def Monitor.shape : Shape Monitor where
  title := "struct Monitor"
  blank := ⟨"", ⟨0, 0, 0, 0⟩, ⟨0, 0, 0, 0⟩, false⟩
  fields := [
    .of "name" .required Decoder.text fun v m => { m with name := v },
    .of "geometry" .required Rect.shape.decoder fun v m => { m with geometry := v },
    .of "available" .required Rect.shape.decoder fun v m => { m with available := v },
    .of "primary" .defaulted Decoder.boolean fun v m => { m with primary := v }]

def Monitor.toJson (m : Monitor) : Json := .object [
  ("name", .text m.name), ("geometry", m.geometry.toJson), ("available", m.available.toJson),
  ("primary", .boolean m.primary)]

/-- A desktop is written as the list of its monitors. -/
def Monitor.listDecoder : Decoder (List Monitor) := .list Monitor.shape.decoder

def Monitor.listJson (ms : List Monitor) : Json := .array (ms.map Monitor.toJson)

end WindowKeeper
