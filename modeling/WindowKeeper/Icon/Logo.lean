import WindowKeeper.Files.Tree
import WindowKeeper.Icon.Gray
import WindowKeeper.Icon.Pixmap

namespace WindowKeeper

/-- A picture that could not be loaded. -/
structure PictureError where
  path : String
  deriving DecidableEq, Repr

def PictureError.message (e : PictureError) : String :=
  "failed to load icon " ++ e.path ++ ": no picture can be read there"

namespace Logo

def suffix (id : Int) : String :=
  if id = 1 then "_blue"
  else if id = 2 then "_green"
  else if id = 3 then "_orange"
  else if id = 4 then "_red"
  else if id = 5 then "_old"
  else ""

def path (assetsDir : String) (id : Int) : String :=
  Path.join assetsDir ("logo_256" ++ suffix id ++ ".png")

def noMarginPath (assetsDir : String) (id : Int) : String :=
  Path.join assetsDir ("logo_256_no_margin" ++ suffix id ++ ".png")

/-- The user's picture, which stands in for every logo. -/
def ownPath (workingDir : String) : String := Path.join (Path.join workingDir "tdata") "icon.png"

end Logo

def Tree.loadPicture (t : Tree) (path : String) : Except PictureError Image :=
  match t.find? path with
  | some (.file (.picture im)) => .ok im
  | _ => .error ⟨path⟩

/-- An icon, rendered at every size that window systems ask for. -/
@[ext]
structure Icon where
  base : Image
  deriving DecidableEq, Repr

namespace Icon

def sizes : List Nat := [16, 22, 32, 48, 64, 128, 256]

def pixmap? (i : Icon) (size : Nat) : Option Pixmap :=
  if sizes.contains size then some ⟨i.base, size⟩ else none

/-- The picture behind the icon, darkened in support mode. -/
def baseImage (t : Tree) (workingDir assetsDir : String) (id : Int) (supportMode : Bool) :
    Except PictureError Image := do
  let own := Logo.ownPath workingDir
  let im ← t.loadPicture (if t.isFile own then own else Logo.path assetsDir id)
  return if supportMode then im.darkened else im

def create (t : Tree) (workingDir assetsDir : String) (id : Int) (supportMode : Bool) :
    Except PictureError Icon := do
  return ⟨← baseImage t workingDir assetsDir id supportMode⟩

end Icon

end WindowKeeper
