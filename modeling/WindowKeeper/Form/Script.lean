import WindowKeeper.Form.Settings
import WindowKeeper.Script.Step

namespace WindowKeeper

open Json

namespace Script.Step

inductive Kind
  | move
  | resize
  | state
  | visible
  | focus
  | monitors
  | placed
  | tray
  | unread
  | workMode
  | nativeFrame
  | rightColumn
  | close
  | wait
  deriving DecidableEq, Repr

def Kind.choice : Choice Kind :=
  [("move", .move), ("resize", .resize), ("state", .state), ("visible", .visible),
    ("focus", .focus), ("monitors", .monitors), ("position_initialized", .placed), ("tray", .tray),
    ("unread", .unread), ("work_mode", .workMode), ("native_frame", .nativeFrame),
    ("right_column", .rightColumn), ("close", .close), ("wait", .wait)]

/-- A kind of step with two numbers. -/
def pairShape (title first second : String) : Shape (Int × Int) where
  title := title
  blank := (0, 0)
  fields := [
    .of first .required Decoder.int32 fun v p => (v, p.2),
    .of second .required Decoder.int32 fun v p => (p.1, v)]

/-- A kind of step with a single field. -/
def singleShape {α : Type} (title name : String) (presence : Presence) (d : Decoder α)
    (blank : α) : Shape α where
  title := title
  blank := blank
  fields := [.of name presence d fun v _ => v]

/-- The fields of a step without fields: an object may hold anything, an array nothing. -/
def noFields (x : Fragment) : Except Fault Unit :=
  match x with
  | .array (.more _ rest) => .error (.wrongLength (rest.length + 1) "0 elements in sequence")
  | _ => .ok ()

/-- Decodes the stored fields of a step. -/
def ofFields (x : Fragment) : Kind → Except Fault Script.Step
  | .move => (fun p => .move p.1 p.2) <$>
      (pairShape "struct variant ScriptStep::Move" "x" "y").decoder .buffered x
  | .resize => (fun p => .resize p.1 p.2) <$>
      (pairShape "struct variant ScriptStep::Resize" "w" "h").decoder .buffered x
  | .state => .state <$>
      (singleShape "struct variant ScriptStep::State" "state" .required
        WindowState.choice.decoder .normal).decoder .buffered x
  | .visible => .visible <$>
      (singleShape "struct variant ScriptStep::Visible" "visible" .required
        Decoder.boolean false).decoder .buffered x
  | .focus => .focus <$>
      (singleShape "struct variant ScriptStep::Focus" "active" .required
        Decoder.boolean false).decoder .buffered x
  | .monitors => .monitors <$>
      (singleShape "struct variant ScriptStep::Monitors" "monitors" .required
        Monitor.listDecoder []).decoder .buffered x
  | .placed => (fun _ => .placed) <$> noFields x
  | .tray => .tray <$>
      (singleShape "struct variant ScriptStep::Tray" "activation" .required
        TrayActivation.choice.decoder .trigger).decoder .buffered x
  | .unread => .unread <$>
      (singleShape "struct variant ScriptStep::Unread" "count" .required
        Decoder.uint32 0).decoder .buffered x
  | .workMode => .workMode <$>
      (singleShape "struct variant ScriptStep::WorkMode" "mode" .required
        WorkMode.choice.decoder .windowAndTray).decoder .buffered x
  | .nativeFrame => .nativeFrame <$>
      (singleShape "struct variant ScriptStep::NativeFrame" "enabled" .required
        Decoder.boolean false).decoder .buffered x
  | .rightColumn => .rightColumn <$>
      (singleShape "struct variant ScriptStep::RightColumn" "width" .optional
        (Decoder.nullable Decoder.int32) none).decoder .buffered x
  | .close => (fun _ => .close) <$> noFields x
  | .wait => .wait <$>
      (singleShape "struct variant ScriptStep::Wait" "ms" .required
        Decoder.uint64 0).decoder .buffered x

/-- How many brackets may be open inside a step. -/
def room : Nat := 125

/-- Goes through the members of a step, its kind being known or not, and keeps the other members. -/
def split : Members → Option Kind → Except Fault (Option Kind × Members)
  | .closed, kind => .ok (kind, .closed)
  | .more (some k) x rest, kind =>
    if k = "type" then
      match kind with
      | some _ => .error (.repeated "type")
      | none => do split rest (some (← Kind.choice.identifier .streamed x))
    else if x.storable room then do
      let (kind, others) ← split rest kind
      return (kind, .more (some k) x others)
    else .error .malformed
  | _, _ => .error .malformed

/-- A step is an object whose member `type` names its kind, or an array that begins with the name.
The kind is decoded as soon as it is met, and the rest is stored first. -/
def decoder : Decoder Script.Step := fun _ x =>
  match x with
  | .object ms => do
    match ← split ms none with
    | (some kind, fields) => ofFields (.object fields) kind
    | (none, _) => .error (.missing "type")
  | .array .closed => .error (.missing "type")
  | .array .broken => .error .malformed
  | .array (.more x rest) => do
    let kind ← Kind.choice.identifier .streamed x
    if rest.storable room then ofFields (.array rest) kind else .error .malformed
  | x => .error (x.mismatch "internally tagged enum ScriptStep")

/-- The object of a step of this kind. -/
def record (kind : Kind) (fields : List (String × Json)) : Json :=
  .object (("type", .text (nameIn Kind.choice kind)) :: fields)

def toJson : Script.Step → Json
  | .move x y => record .move [("x", .integer x), ("y", .integer y)]
  | .resize w h => record .resize [("w", .integer w), ("h", .integer h)]
  | .state s => record .state [("state", s.toJson)]
  | .visible b => record .visible [("visible", .boolean b)]
  | .focus b => record .focus [("active", .boolean b)]
  | .monitors ms => record .monitors [("monitors", Monitor.listJson ms)]
  | .placed => record .placed []
  | .tray a => record .tray [("activation", a.toJson)]
  | .unread n => record .unread [("count", .integer n)]
  | .workMode m => record .workMode [("mode", m.toJson)]
  | .nativeFrame b => record .nativeFrame [("enabled", .boolean b)]
  | .rightColumn none => record .rightColumn [("width", .null)]
  | .rightColumn (some w) => record .rightColumn [("width", .integer w)]
  | .close => record .close []
  | .wait ms => record .wait [("ms", .integer ms)]

end Script.Step

def Script.decoder : Decoder Script := .list Script.Step.decoder

def Script.toJson (s : Script) : Json := .array (s.map Script.Step.toJson)

def Script.ofText (t : String) : Except Fault Script := decodeText Script.decoder t

end WindowKeeper
