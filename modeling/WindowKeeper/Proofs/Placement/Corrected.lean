import WindowKeeper.Proofs.Placement.BroughtIn

namespace WindowKeeper.Placement

/-- The rectangle of the record on the desktop, as it was saved. -/
def savedRect (p : Placement) (m : Monitor) : Rect :=
  ⟨p.x + m.geometry.x, p.y + m.geometry.y, p.w, p.h⟩

/-- The record cannot be honoured on monitor `m`: there is no room for the least size, or the corner
of the corrected rectangle has no 32-bit coordinates. -/
def Refused (p : Placement) (m : Monitor) (space : Rect) (least : Size) : Prop :=
  Cramped m space least (p.inside m space) ∨
    ¬ (Fits32 (p.inside m space).x ∧ Fits32 (p.inside m space).y)

instance (p : Placement) (m : Monitor) (space : Rect) (least : Size) :
    Decidable (p.Refused m space least) := inferInstanceAs (Decidable (_ ∨ ¬ (_ ∧ _)))

/-- The sides of a record with a size, cut to those of a space, are 32-bit numbers. -/
theorem fits_sides_inside {p : Placement} (m : Monitor) {space : Rect} (hs : p.hasSize)
    (hspace : space.Fits) : Fits32 (p.inside m space).w ∧ Fits32 (p.inside m space).h := by
  obtain ⟨-, -, hw, hh⟩ := hspace
  have hsize : 0 < p.w ∧ 0 < p.h := by simpa [hasSize] using hs
  unfold Fits32 int32Min int32Max at *
  simp only [inside]
  omega

theorem placeOn_eq {p : Placement} (m : Monitor) {space : Rect} (least : Size) (hs : p.hasSize)
    (hspace : space.Fits) :
    p.placeOn m space least =
      if p.Refused m space least then none else some (p.inside m space) := by
  obtain ⟨hw, hh⟩ := fits_sides_inside m hs hspace
  by_cases hcorner : Fits32 (p.inside m space).x ∧ Fits32 (p.inside m space).y
  · have hrefused : p.Refused m space least ↔ Cramped m space least (p.inside m space) := by
      simp [Refused, hcorner]
    simp only [hrefused]
    exact placeOn_of_fits ⟨hcorner.1, hcorner.2, hw, hh⟩
  · rw [if_pos (.inr hcorner), Option.eq_none_iff_forall_ne_some]
    intro r hr
    obtain ⟨-, -, hfits, rfl⟩ := placeOn_eq_some.mp hr
    exact hcorner ⟨hfits.x, hfits.y⟩

theorem restore_corrected {p : Placement} {ms : List Monitor} {usual : Size} {d : Rect}
    (hs : p.hasSize) (hd : defaultRect ms usual = .ok d) (least : Size) (frame : Margins) :
    (Monitor.named? ms p.monitor = none → p.restore ms usual least frame = .ok d) ∧
    ∀ m space, Monitor.named? ms p.monitor = some m → m.available.inset frame = .ok space →
      p.restore ms usual least frame =
        .ok (if p.Refused m space least then d else p.inside m space) ∧
      ((p.savedRect m).Within space → p.inside m space = p.savedRect m) ∧
      ∀ r, r.BroughtInto (p.savedRect m) space ↔ r = p.inside m space := by
  constructor
  · intro hlost
    exact restore_of_lost hd (.inr hlost)
  · intro m space hm hspace
    refine ⟨?_, inside_eq_self rfl, fun r => broughtInto_iff rfl⟩
    rw [restore_of_named hd hs hm hspace, placeOn_eq m least hs (Rect.fits_inset hspace)]
    split
    · rfl
    · rfl

/-- A record with the largest offsets and an undisturbed one, on a monitor to the left of the
origin. -/
theorem restore_corrected_far :
    let m : Monitor := ⟨"DP-1", ⟨-1920, 0, 1920, 1080⟩, ⟨-1920, 40, 1920, 1040⟩, true⟩
    let far : Placement := ⟨2147483647, -2147483648, 2147483647, 600, 100, false, m.checksum⟩
    let undisturbed : Placement := ⟨301, 203, 801, 603, 100, false, m.checksum⟩
    far.restore [m] ⟨800, 600⟩ ⟨380, 480⟩ ⟨8, 31, 8, 8⟩ = .ok ⟨-1912, 71, 1904, 600⟩ ∧
      undisturbed.restore [m] ⟨800, 600⟩ ⟨380, 480⟩ ⟨8, 31, 8, 8⟩ =
        .ok (undisturbed.savedRect m) := by
  intro m far undisturbed
  have hnamed : Monitor.named? [m] m.checksum = some m := by simp [Monitor.named?]
  have hspace : m.available.inset ⟨8, 31, 8, 8⟩ = .ok ⟨-1912, 71, 1904, 1001⟩ := rfl
  have hd : defaultRect [m] ⟨800, 600⟩ = .ok ⟨-1360, 260, 800, 600⟩ := rfl
  constructor
  · obtain ⟨hr, -⟩ := (restore_corrected (p := far) (by decide) hd ⟨380, 480⟩ ⟨8, 31, 8, 8⟩).2 m _
      hnamed hspace
    rw [hr, if_neg (by decide)]
    rfl
  · obtain ⟨hr, hin, -⟩ := (restore_corrected (p := undisturbed) (by decide) hd ⟨380, 480⟩
      ⟨8, 31, 8, 8⟩).2 m _ hnamed hspace
    rw [hr, if_neg (by decide), hin (by constructor <;> decide)]

end WindowKeeper.Placement
