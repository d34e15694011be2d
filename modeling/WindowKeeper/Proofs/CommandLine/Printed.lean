import WindowKeeper.CommandLine
import WindowKeeper.Proofs.Form.Geometry
import WindowKeeper.Proofs.Form.Settings

namespace WindowKeeper

namespace Json

/-- The first member with a name. -/
def Members.find? (name : String) : Members → Option Fragment
  | .more key x rest => if key = some name then some x else rest.find? name
  | _ => none

def Fragment.member? (name : String) : Fragment → Option Fragment
  | .object ms => ms.find? name
  | _ => none

def Fragment.integer? : Fragment → Option Int
  | .number (.integer n) => some n
  | _ => none

/-- The line break after a printed value does not keep it from being read. -/
theorem ofChars_line {x : Json} (hx : x.Legible) :
    Fragment.ofChars (x.pretty ++ "\n").toList = (x.fragment, true) := by
  obtain ⟨d, hchars, htree⟩ := exists_document Spacing.blank_indented 0 x hx
  have hread := ofChars_document d [] [.newline]
  rw [hchars, htree] at hread
  rw [String.toList_append, pretty, String.toList_ofList]
  exact hread

end Json

namespace CommandLine

open Json

/-- The rectangle with the given members as its corner and its sides. -/
def rect? (x : Fragment) : Option Rect := do
  return {
    x := ← (← x.member? "x").integer?
    y := ← (← x.member? "y").integer?
    w := ← (← x.member? "w").integer?
    h := ← (← x.member? "h").integer? }

/-- The rectangle that a text gives as its geometry, if the text is that of an object. -/
def geometryIn? (text : String) : Option Rect :=
  match Fragment.ofChars text.toList with
  | (x, true) => x.member? "geometry" >>= rect?
  | (_, false) => none

theorem geometryIn?_printed {r : Rect} {others : List (String × Json)} (hr : r.Fits)
    (hothers : LegibleMembers others) (t : Tree) :
    geometryIn? (printed (.object (("geometry", r.toJson) :: others)) t).output = some r := by
  have hlegible : (Json.object (("geometry", r.toJson) :: others)).Legible :=
    ⟨Rect.inverts.legible hr, hothers⟩
  rw [geometryIn?, printed, ofChars_line hlegible]
  rfl

theorem geometryIn?_place {r : Rect} (hr : r.Fits) (maximized : Bool) (t : Tree) :
    geometryIn? (printed (placementJson r maximized) t).output = some r := by
  have hothers : LegibleMembers [("maximized", .boolean maximized)] := ⟨trivial, trivial⟩
  exact geometryIn?_printed hr hothers t

theorem geometryIn?_replay {s : Session FileStore} (hg : s.window.geometry.Fits)
    (hrecord : s.store.settings.placement.Fits) (t : Tree) :
    geometryIn? (printed (windowJson s) t).output = some s.window.geometry := by
  have hothers : LegibleMembers [("visible", .boolean s.window.visible),
      ("title", .text s.window.title), ("position", s.store.settings.placement.toJson)] :=
    ⟨trivial, trivial, Placement.inverts.legible hrecord, trivial⟩
  exact geometryIn?_printed hg hothers t

end CommandLine

end WindowKeeper
