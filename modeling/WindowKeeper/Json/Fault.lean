import WindowKeeper.Json.Fragment
import WindowKeeper.Numeric.Shortest
import WindowKeeper.Text.Quoted

namespace WindowKeeper.Json

/-- What stands in the place of a wanted value. -/
inductive Found
  | null
  | boolean (b : Bool)
  | integer (n : Int)
  | real (negative : Bool) (size : Rat)
  | text (s : String)
  | sequence
  | map
  deriving DecidableEq, Repr

inductive Fault
  | malformed
  | missing (field : String)
  | repeated (field : String)
  | wrongKind (found : Found) (wanted : String)
  | outOfRange (n : Int) (wanted : String)
  | wrongLength (n : Nat) (wanted : String)
  | unknownName (name : String) (known : List String)
  | severalKeys
  deriving DecidableEq, Repr

def Found.describe : Found → String
  | .null => "null"
  | .boolean b => "boolean `" ++ (if b then "true" else "false") ++ "`"
  | .integer n => "integer `" ++ toString n ++ "`"
  | .real negative size => "floating point `" ++ Numeric.writeReal negative size ++ "`"
  | .text s => "string " ++ Text.quoted s
  | .sequence => "sequence"
  | .map => "map"

/-- The description of a fault in the form of a JSON text; a text that is no JSON has none. -/
def Fault.message : Fault → Option String
  | .malformed => none
  | .missing field => some ("missing field `" ++ field ++ "`")
  | .repeated field => some ("duplicate field `" ++ field ++ "`")
  | .wrongKind found wanted =>
    some ("invalid type: " ++ found.describe ++ ", expected " ++ wanted)
  | .outOfRange n wanted =>
    some ("invalid value: integer `" ++ toString n ++ "`, expected " ++ wanted)
  | .wrongLength n wanted =>
    some ("invalid length " ++ toString n ++ ", expected " ++ wanted)
  | .unknownName name known =>
    some ("unknown variant `" ++ name ++ "`, expected one of " ++
      String.intercalate ", " (known.map fun k => "`" ++ k ++ "`"))
  | .severalKeys => some "invalid value: map, expected map with a single key"

/-- What a value is, if enough of it can be read. -/
def Fragment.found? : Fragment → Option Found
  | .null => some .null
  | .boolean b => some (.boolean b)
  | .number (.integer n) => some (.integer n)
  | .number (.real negative size) => some (.real negative size)
  | .text (some s) => some (.text s)
  | .array _ => some .sequence
  | .object _ => some .map
  | _ => none

/-- The fault of a value that is not of the wanted kind. -/
def Fragment.mismatch (x : Fragment) (wanted : String) : Fault :=
  match x.found? with
  | some f => .wrongKind f wanted
  | none => .malformed

end WindowKeeper.Json
