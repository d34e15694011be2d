import WindowKeeper.Proofs.Placement.Remembered
import WindowKeeper.Proofs.Placement.Restored

namespace WindowKeeper

/-- The rectangle `r` is `s`, cut to the size of `area` and moved along each axis by the least
distance that brings it inside. -/
structure Rect.BroughtInto (r s area : Rect) : Prop where
  width : r.w = min s.w area.w
  height : r.h = min s.h area.h
  within : r.Within area
  least_x : ∀ q : Rect, q.size = r.size → q.Within area → (r.x - s.x).natAbs ≤ (q.x - s.x).natAbs
  least_y : ∀ q : Rect, q.size = r.size → q.Within area → (r.y - s.y).natAbs ≤ (q.y - s.y).natAbs

namespace Placement

/-- The rectangle for which a record asks is the only one that is brought into the space. -/
theorem broughtInto_iff {p : Placement} {m : Monitor} {space r s : Rect}
    (hs : s = ⟨p.x + m.geometry.x, p.y + m.geometry.y, p.w, p.h⟩) :
    r.BroughtInto s space ↔ r = p.inside m space := by
  subst hs
  have hin := p.inside_within m space
  constructor
  · rintro ⟨hw, hh, ⟨hl, ht, hr, hb⟩, hx, hy⟩
    simp only at hw hh
    have hsize : (p.inside m space).size = r.size := by simp [Rect.size, inside, hw, hh]
    have hx := hx _ hsize hin
    have hy := hy _ hsize hin
    simp only [inside] at hx hy
    ext <;> simp only [inside] <;> omega
  · rintro rfl
    refine ⟨rfl, rfl, hin, ?_, ?_⟩
    · intro q hq hin
      have hleft := hin.left
      have hright := hin.right
      have hw : q.w = min p.w space.w := congrArg Size.w hq
      simp only [inside]
      omega
    · intro q hq hin
      have htop := hin.top
      have hbottom := hin.bottom
      have hh : q.h = min p.h space.h := congrArg Size.h hq
      simp only [inside]
      omega

/-- What is brought into the space is between the space and where it was. -/
theorem fits_inside {p : Placement} {m : Monitor} {space s : Rect}
    (hs : s = ⟨p.x + m.geometry.x, p.y + m.geometry.y, p.w, p.h⟩) (hfits : s.Fits)
    (hspace : space.Fits) : (p.inside m space).Fits := by
  subst hs
  obtain ⟨hx, hy, hw, hh⟩ := hfits
  obtain ⟨sx, sy, sw, sh⟩ := hspace
  simp only [Fits32] at *
  constructor <;> simp only [inside, Fits32] <;> omega

theorem restore_inForce_broughtInto {ms : List Monitor} {n : Monitor} {s : Snapshot}
    {saved p : Placement} {scale : Int} {usual least : Size} {frame : Margins} {space d : Rect}
    {c : Point} (hvisible : s.visible) (hplaced : s.placed)
    (hstate : s.state = .normal ∨ s.state = .fullscreen) (hbody : s.body.Fits)
    (hleast : 0 < least.w ∧ 0 < least.h) (hsize : least.w ≤ s.kept.w ∧ least.h ≤ s.kept.h)
    (hc : s.kept.center = .ok c) (hnear : Monitor.FirstNearest ms c n)
    (hfirst : Monitor.named? ms n.checksum = some n)
    (hspace : n.available.inset frame = .ok space) (hd : defaultRect ms usual = .ok d)
    (hsave : s.inForce saved ms scale least = .ok p) :
    ∃ r, (∀ q, q.BroughtInto s.kept space ↔ q = r) ∧
      p.restore ms usual least frame = .ok (if Cramped n space least r then d else r) := by
  have hmax : s.state ≠ .maximized := by rcases hstate with h | h <;> simp [h]
  have hworth : s.worthSaving := by
    rcases hstate with h | h <;> simp [Snapshot.worthSaving, hvisible, hplaced, h]
  have hnearest := Monitor.nearest?_eq_some.mpr hnear
  have hms := List.ne_nil_of_mem (Monitor.nearest?_mem hnearest)
  obtain ⟨hw, c', n', hc', hn', rfl⟩ := Snapshot.inForce_recordOn hms hworth hmax hsize hsave
  cases hc.symm.trans hc'
  cases hnearest.symm.trans hn'
  let p := s.recordOn scale n
  have hkept : s.kept = ⟨p.x + n.geometry.x, p.y + n.geometry.y, p.w, p.h⟩ := by
    simp [p, Snapshot.recordOn]
  have hsized : p.hasSize := by
    simp only [hasSize, p, Snapshot.recordOn, Bool.and_eq_true, decide_eq_true_eq]
    omega
  have hfits : (p.inside n space).Fits :=
    fits_inside hkept ⟨hbody.x, hbody.y, hw, hbody.h⟩ (Rect.fits_inset hspace)
  refine ⟨p.inside n space, fun q => broughtInto_iff hkept, ?_⟩
  rw [restore_of_named hd hsized hfirst hspace, placeOn_of_fits hfits]
  split <;> rfl

/-- A window hanging off the top and the right of its monitor, taller than the space under the
panel, saved without its right column. -/
theorem restore_inForce_broughtInto_hanging :
    let m : Monitor := ⟨"DP-1", ⟨0, 0, 1920, 1080⟩, ⟨0, 40, 1920, 1040⟩, true⟩
    let s : Snapshot := ⟨⟨1500, -50, 1000, 1200⟩, .normal, true, true, 200⟩
    let p : Placement := ⟨1500, -50, 800, 1200, 125, false, m.checksum⟩
    let space : Rect := ⟨8, 71, 1904, 1001⟩
    s.inForce .empty [m] 125 ⟨380, 480⟩ = .ok p ∧
      p.restore [m] ⟨800, 600⟩ ⟨380, 480⟩ ⟨8, 31, 8, 8⟩ = .ok ⟨1112, 71, 800, 1001⟩ ∧
      ∃ r, (∀ q, q.BroughtInto s.kept space ↔ q = r) ∧
        p.restore [m] ⟨800, 600⟩ ⟨380, 480⟩ ⟨8, 31, 8, 8⟩ =
          .ok (if Cramped m space ⟨380, 480⟩ r then ⟨560, 260, 800, 600⟩ else r) := by
  intro m s p space
  have hsave : s.inForce .empty [m] 125 ⟨380, 480⟩ = .ok p := rfl
  have hfirst : Monitor.named? [m] m.checksum = some m := by simp [Monitor.named?]
  have hspace : m.available.inset ⟨8, 31, 8, 8⟩ = .ok space := rfl
  have hnear : Monitor.FirstNearest [m] ⟨1900, 550⟩ m :=
    ⟨[], [], ⟨960, 540⟩, rfl, rfl, by simp, by simp⟩
  refine ⟨hsave, ?_, restore_inForce_broughtInto rfl rfl (.inl rfl) (by constructor <;> decide)
    (by decide) (by decide) rfl hnear hfirst hspace rfl hsave⟩
  rw [restore_of_named (d := ⟨560, 260, 800, 600⟩) rfl (by decide) hfirst hspace]
  rfl

end Placement

end WindowKeeper
