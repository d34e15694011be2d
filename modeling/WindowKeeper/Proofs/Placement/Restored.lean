import WindowKeeper.Proofs.Geometry.Span
import WindowKeeper.Proofs.Geometry.Within

namespace WindowKeeper

namespace Placement

/-- The rectangle of the record on monitor `m`, cut to the size of `space` and moved into it by the
least distance. -/
def inside (p : Placement) (m : Monitor) (space : Rect) : Rect where
  x := min (max (p.x + m.geometry.x) space.x) (space.x + space.w - min p.w space.w)
  y := min (max (p.y + m.geometry.y) space.y) (space.y + space.h - min p.h space.h)
  w := min p.w space.w
  h := min p.h space.h

theorem inside_within (p : Placement) (m : Monitor) (space : Rect) :
    (p.inside m space).Within space := by
  constructor <;> simp only [inside] <;> omega

/-- A rectangle of the monitor that lies inside `space` is only translated. -/
theorem inside_eq_self {p : Placement} {m : Monitor} {space r : Rect}
    (hr : r = ⟨p.x + m.geometry.x, p.y + m.geometry.y, p.w, p.h⟩) (h : r.Within space) :
    p.inside m space = r := by
  subst hr
  obtain ⟨hl, ht, hr, hb⟩ := h
  simp only at hl ht hr hb
  ext <;> simp only [inside] <;> omega

/-- A record is honoured on a monitor exactly when there is room for the least size, the least size
at the corner stays on the monitor, and the rectangle has 32-bit numbers. -/
theorem placeOn_eq_some {p : Placement} {m : Monitor} {space r : Rect} {least : Size} :
    p.placeOn m space least = some r ↔
      (least.w ≤ space.w ∧ least.h ≤ space.h) ∧
      (r.x + least.w ≤ m.geometry.x + m.geometry.w ∧
        r.y + least.h ≤ m.geometry.y + m.geometry.h) ∧
      r.Fits ∧ r = p.inside m space := by
  have hx := Span.start_confine_add p.x p.w space.x space.w m.geometry.x
  have hy := Span.start_confine_add p.y p.h space.y space.h m.geometry.y
  have hw := Span.length_confine ⟨p.x, p.w⟩ ⟨space.x - m.geometry.x, space.w⟩
  have hh := Span.length_confine ⟨p.y, p.h⟩ ⟨space.y - m.geometry.y, space.h⟩
  simp only at hw hh
  simp only [placeOn, hx, hy, hw, hh]
  split
  · simp only [reduceCtorEq, false_iff]
    rintro ⟨hroom, -⟩
    omega
  split
  · simp only [reduceCtorEq, false_iff]
    rintro ⟨-, hedge, -, rfl⟩
    simp only [inside] at hedge
    omega
  split
  · rename_i hroom hedge hfits
    constructor
    · intro h
      cases h
      exact ⟨by omega, by simp only; omega, ⟨hfits.1, hfits.2.1, hfits.2.2.1, hfits.2.2.2⟩, rfl⟩
    · rintro ⟨-, -, -, rfl⟩
      rfl
  · rename_i hfits
    simp only [reduceCtorEq, false_iff]
    rintro ⟨-, -, ⟨fx, fy, fw, fh⟩, rfl⟩
    exact hfits ⟨fx, fy, fw, fh⟩

/-- There is no room on monitor `m` for a window of the least size at the corner of `r`, or none in
the usable space for a window of the least size. -/
def Cramped (m : Monitor) (space : Rect) (least : Size) (r : Rect) : Prop :=
  (space.w < least.w ∨ space.h < least.h) ∨
    m.geometry.x + m.geometry.w < r.x + least.w ∨ m.geometry.y + m.geometry.h < r.y + least.h

instance (m : Monitor) (space : Rect) (least : Size) (r : Rect) :
    Decidable (Cramped m space least r) := inferInstanceAs (Decidable ((_ ∨ _) ∨ _ ∨ _))

/-- A record whose rectangle has 32-bit numbers is refused for want of room only. -/
theorem placeOn_of_fits {p : Placement} {m : Monitor} {space : Rect} {least : Size}
    (hfits : (p.inside m space).Fits) :
    p.placeOn m space least =
      if Cramped m space least (p.inside m space) then none else some (p.inside m space) := by
  by_cases hc : Cramped m space least (p.inside m space)
  · rw [if_pos hc, Option.eq_none_iff_forall_ne_some]
    intro r hr
    obtain ⟨hroom, hedge, -, rfl⟩ := placeOn_eq_some.mp hr
    unfold Cramped at hc
    omega
  · rw [if_neg hc]
    unfold Cramped at hc
    exact placeOn_eq_some.mpr ⟨by omega, by omega, hfits, rfl⟩

/-- A record that is honoured puts the window inside the available area, with room for the least
size up to the edges of the monitor. -/
theorem placeOn_within {p : Placement} {m : Monitor} {space r : Rect} {least : Size}
    {frame : Margins} (hs : p.hasSize) (hleast : 0 < least.w ∧ 0 < least.h)
    (hframe : frame.Outward) (hi : m.available.inset frame = .ok space)
    (h : p.placeOn m space least = some r) :
    (0 < r.w ∧ 0 < r.h) ∧ r.Within m.available ∧
      r.x + least.w ≤ m.geometry.x + m.geometry.w ∧
      r.y + least.h ≤ m.geometry.y + m.geometry.h := by
  obtain ⟨hroom, hedge, -, rfl⟩ := placeOn_eq_some.mp h
  have hsize : 0 < p.w ∧ 0 < p.h := by simpa [hasSize] using hs
  have hin := (p.inside_within m space).trans (Rect.inset_within hframe hi)
  refine ⟨?_, hin, hedge⟩
  simp only [inside]
  omega

/-- A record without a size, or of a monitor that is gone, gives the default rectangle. -/
theorem restore_of_lost {p : Placement} {ms : List Monitor} {usual least : Size} {frame : Margins}
    {d : Rect} (hd : defaultRect ms usual = .ok d)
    (h : p.hasSize = false ∨ Monitor.named? ms p.monitor = none) :
    p.restore ms usual least frame = .ok d := by
  unfold restore
  rw [hd]
  cases hs : p.hasSize with
  | false => simp [bind, Except.bind, pure, Except.pure]
  | true =>
    have hn : Monitor.named? ms p.monitor = none := by simpa [hs] using h
    simp [hn, bind, Except.bind, pure, Except.pure]

theorem restore_of_named {p : Placement} {ms : List Monitor} {usual least : Size} {frame : Margins}
    {d space : Rect} {m : Monitor} (hd : defaultRect ms usual = .ok d) (hs : p.hasSize)
    (hm : Monitor.named? ms p.monitor = some m) (hi : m.available.inset frame = .ok space) :
    p.restore ms usual least frame = .ok ((p.placeOn m space least).getD d) := by
  simp [restore, hd, hs, hm, hi, bind, Except.bind, pure, Except.pure]

end Placement

end WindowKeeper
