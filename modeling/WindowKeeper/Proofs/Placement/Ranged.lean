import WindowKeeper.Config
import WindowKeeper.Proofs.Form.Settings
import WindowKeeper.Proofs.Placement.Remembered
import WindowKeeper.Proofs.Placement.Restored
import WindowKeeper.Widening

namespace WindowKeeper

/-- A configuration of 32-bit numbers, as far as they reach the window and its record. -/
structure Config.Fits (c : Config) : Prop where
  scale : Fits32 c.scale
  usualSize : c.usualSize.Fits
  bigSize : c.bigSize.Fits

theorem Config.Fits.openingSize {c : Config} (h : c.Fits) : c.openingSize.Fits := by
  unfold Config.openingSize
  split
  · exact h.bigSize
  · exact h.usualSize

theorem fits32_min {a b : Int} (ha : Fits32 a) (hb : Fits32 b) : Fits32 (min a b) := by
  rcases Int.le_total a b with h | h
  · rwa [Int.min_eq_left h]
  · rwa [Int.min_eq_right h]

theorem fits_defaultRect {ms : List Monitor} {size : Size} {r : Rect} (hsize : size.Fits)
    (h : defaultRect ms size = .ok r) : r.Fits := by
  unfold defaultRect at h
  split at h
  · obtain ⟨hr, hx, hy⟩ := Rect.centered_eq_ok h
    have hw : r.w = size.w := by rw [hr]
    have hh : r.h = size.h := by rw [hr]
    exact ⟨hx, hy, hw ▸ hsize.w, hh ▸ hsize.h⟩
  · cases h
    exact ⟨fits32_zero, fits32_zero, hsize.w, hsize.h⟩

theorem Rect.fits_widen {r s desktop : Rect} {d added : Int} (hr : r.Fits)
    (h : r.widen desktop d = .ok (s, added)) : s.Fits := by
  simp only [widen, bind_eq_ok, pure_eq_ok, plus_eq_ok, minus_eq_ok, Prod.mk.injEq] at h
  obtain ⟨_, -, _, ⟨hw, rfl⟩, _, -, _, ⟨hx, rfl⟩, rfl, -⟩ := h
  exact ⟨fits32_min hr.x hx, hr.y, hw, hr.h⟩

namespace Placement

theorem restore_eq_ok {p : Placement} {ms : List Monitor} {usual least : Size} {frame : Margins}
    {r : Rect} (h : p.restore ms usual least frame = .ok r) :
    defaultRect ms usual = .ok r ∨ ∃ m space, p.placeOn m space least = some r := by
  simp only [restore, bind_eq_ok] at h
  obtain ⟨d, hd, h⟩ := h
  split at h
  · cases h
    exact .inl hd
  · split at h
    · cases h
      exact .inl hd
    · rename_i m hm
      simp only [bind_eq_ok, pure_eq_ok] at h
      obtain ⟨space, -, h⟩ := h
      cases hp : p.placeOn m space least with
      | none =>
        rw [hp] at h
        cases h
        exact .inl hd
      | some s =>
        rw [hp] at h
        cases h
        exact .inr ⟨m, space, hp⟩

theorem fits_restore {p : Placement} {ms : List Monitor} {usual least : Size} {frame : Margins}
    {r : Rect} (husual : usual.Fits) (h : p.restore ms usual least frame = .ok r) : r.Fits := by
  rcases restore_eq_ok h with h | ⟨m, space, h⟩
  · exact fits_defaultRect husual h
  · exact (placeOn_eq_some.mp h).2.2.1

end Placement

namespace Snapshot

theorem fits_bodyPlacement {s : Snapshot} {ms : List Monitor} {scale : Int} {p : Placement}
    (hbody : s.body.Fits) (hscale : Fits32 scale) (h : s.bodyPlacement ms scale = .ok p) :
    p.Fits := by
  obtain ⟨hw, c, -, ⟨-, rfl⟩ | ⟨m, -, rfl, hx, hy⟩⟩ := bodyPlacement_eq_ok h
  · exact ⟨hbody.x, hbody.y, hw, hbody.h, hscale⟩
  · exact ⟨hx, hy, hw, hbody.h, hscale⟩

theorem fits_remember {s : Snapshot} {saved p : Placement} {ms : List Monitor} {scale : Int}
    {least : Size} (hbody : s.body.Fits) (hscale : Fits32 scale) (hsaved : saved.Fits)
    (h : s.remember saved ms scale least = .ok (some p)) : p.Fits := by
  unfold remember at h
  split at h
  · simp only [bind_eq_ok, pure_eq_ok] at h
    obtain ⟨c, hc, h⟩ := h
    split at h
    · cases h
      unfold candidate at hc
      split at hc
      · cases hc
        exact { hsaved with }
      · exact fits_bodyPlacement hbody hscale hc
    · cases h
  · cases h

end Snapshot

end WindowKeeper
