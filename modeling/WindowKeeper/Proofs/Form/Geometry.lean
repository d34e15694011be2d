import WindowKeeper.Form.Geometry
import WindowKeeper.Proofs.Geometry.Within
import WindowKeeper.Proofs.Json.Inverted

namespace WindowKeeper

open Json Decoder

structure Monitor.Fits (m : Monitor) : Prop where
  geometry : m.geometry.Fits
  available : m.available.Fits

theorem Size.distinct (s : Size) : s.toJson.Distinct := ⟨by simp, trivial, trivial, trivial⟩

/-- The numbers of a size that are listed. -/
def Size.kept (s : Size) (names : List String) : Size where
  w := if "w" ∈ names then s.w else 0
  h := if "h" ∈ names then s.h else 0

theorem Size.finds : Size.shape.decoder.Finds Size.toJson Size.Fits := by
  intro s hs src x hx h
  refine Shape.decoder_holds s.kept ?_ (by decide) rfl ?_ ?_ hx h
  · exact .cons (int32_finds.read hs.w (by simp [kept])) <|
      .cons (int32_finds.read hs.h (by simp [kept])) .nil
  · simp [kept]
  · intro names hall
    simp_all [kept]

theorem Size.inverts : Size.shape.decoder.Inverts Size.toJson Size.Fits := by
  refine Size.finds.inverts ?_ Size.distinct (Shape.decoder_keeps ⟨by decide, by decide⟩ ?_)
  · exact fun hs => ⟨int32_inverts.legible hs.w, int32_inverts.legible hs.h, trivial⟩
  · simp only [shape, List.forall_mem_cons]
    exact ⟨int32_inverts.keeps fun _ _ hv hs => { hs with w := hv },
      int32_inverts.keeps fun _ _ hv hs => { hs with h := hv },
      List.forall_mem_nil _⟩

theorem Rect.distinct (r : Rect) : r.toJson.Distinct :=
  ⟨by simp, trivial, trivial, trivial, trivial, trivial⟩

/-- The numbers of a rectangle that are listed. -/
def Rect.kept (r : Rect) (names : List String) : Rect where
  x := if "x" ∈ names then r.x else 0
  y := if "y" ∈ names then r.y else 0
  w := if "w" ∈ names then r.w else 0
  h := if "h" ∈ names then r.h else 0

theorem Rect.finds : Rect.shape.decoder.Finds Rect.toJson Rect.Fits := by
  intro r hr src x hx h
  refine Shape.decoder_holds r.kept ?_ (by decide) rfl ?_ ?_ hx h
  · exact .cons (int32_finds.read hr.x (by simp [kept])) <|
      .cons (int32_finds.read hr.y (by simp [kept])) <|
      .cons (int32_finds.read hr.w (by simp [kept])) <|
      .cons (int32_finds.read hr.h (by simp [kept])) .nil
  · simp [kept]
  · intro names hall
    simp_all [kept]

theorem Rect.inverts : Rect.shape.decoder.Inverts Rect.toJson Rect.Fits := by
  refine Rect.finds.inverts ?_ Rect.distinct (Shape.decoder_keeps (by constructor <;> decide) ?_)
  · exact fun hr => ⟨int32_inverts.legible hr.x, int32_inverts.legible hr.y,
      int32_inverts.legible hr.w, int32_inverts.legible hr.h, trivial⟩
  · simp only [shape, List.forall_mem_cons]
    exact ⟨int32_inverts.keeps fun _ _ hv hr => { hr with x := hv },
      int32_inverts.keeps fun _ _ hv hr => { hr with y := hv },
      int32_inverts.keeps fun _ _ hv hr => { hr with w := hv },
      int32_inverts.keeps fun _ _ hv hr => { hr with h := hv },
      List.forall_mem_nil _⟩

namespace Monitor

theorem distinct (m : Monitor) : m.toJson.Distinct :=
  ⟨by simp, trivial, m.geometry.distinct, m.available.distinct, trivial, trivial⟩

/-- The fields of a monitor that are listed. -/
def kept (m : Monitor) (names : List String) : Monitor where
  name := if "name" ∈ names then m.name else ""
  geometry := if "geometry" ∈ names then m.geometry else ⟨0, 0, 0, 0⟩
  available := if "available" ∈ names then m.available else ⟨0, 0, 0, 0⟩
  primary := if "primary" ∈ names then m.primary else false

theorem finds : shape.decoder.Finds toJson Fits := by
  intro m hm src x hx h
  refine Shape.decoder_holds m.kept ?_ (by decide) rfl ?_ ?_ hx h
  · exact .cons ((textAs_finds _).read trivial (by simp [kept])) <|
      .cons (Rect.finds.read hm.geometry (by simp [kept])) <|
      .cons (Rect.finds.read hm.available (by simp [kept])) <|
      .cons (boolean_finds.read trivial (by simp [kept])) .nil
  · simp [kept]
  · intro names hall
    simp_all [kept]

theorem inverts : shape.decoder.Inverts toJson Fits := by
  refine finds.inverts ?_ distinct
    (Shape.decoder_keeps (by constructor <;> constructor <;> decide) ?_)
  · exact fun hm => ⟨trivial, Rect.inverts.legible hm.geometry, Rect.inverts.legible hm.available,
      trivial, trivial⟩
  · simp only [shape, List.forall_mem_cons]
    exact ⟨(textAs_inverts _).keeps fun _ _ _ hm => { hm with },
      Rect.inverts.keeps fun _ _ hv hm => { hm with geometry := hv },
      Rect.inverts.keeps fun _ _ hv hm => { hm with available := hv },
      boolean_inverts.keeps fun _ _ _ hm => { hm with }, List.forall_mem_nil _⟩

theorem list_inverts : listDecoder.Inverts listJson fun ms => ∀ m ∈ ms, m.Fits :=
  Decoder.list_inverts inverts

end Monitor

end WindowKeeper
