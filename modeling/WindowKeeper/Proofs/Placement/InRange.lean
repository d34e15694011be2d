import WindowKeeper.Proofs.Placement.Shifted
import WindowKeeper.Proofs.Placement.Wide

namespace WindowKeeper

/-- A number of absolute value at most `2 ^ 29`. -/
def Moderate (n : Int) : Prop := -536870912 ≤ n ∧ n ≤ 536870912

instance (n : Int) : Decidable (Moderate n) := inferInstanceAs (Decidable (_ ∧ _))

structure Size.IsModerate (s : Size) : Prop where
  w : Moderate s.w
  h : Moderate s.h

structure Margins.IsModerate (m : Margins) : Prop where
  left : Moderate m.left
  top : Moderate m.top
  right : Moderate m.right
  bottom : Moderate m.bottom

structure Rect.IsModerate (r : Rect) : Prop where
  x : Moderate r.x
  y : Moderate r.y
  w : Moderate r.w
  h : Moderate r.h

structure Monitor.IsModerate (m : Monitor) : Prop where
  geometry : m.geometry.IsModerate
  available : m.available.IsModerate

/-- Half of a stretch, unless it is negative, is a part of it. -/
theorem half_between (n : Int) : 0 ≤ max (n.tdiv 2) 0 ∧ max (n.tdiv 2) 0 ≤ max n 0 := by
  rcases Int.le_total 0 n with hn | hn
  · rw [Int.tdiv_eq_ediv_of_nonneg hn]
    omega
  · have hneg : 0 ≤ (-n).tdiv 2 := Int.tdiv_nonneg (by omega) (by decide)
    rw [Int.neg_tdiv] at hneg
    omega

namespace Moderate

variable {a n k l r : Int}

theorem fits (h : Moderate n) : Fits32 n := by
  unfold Moderate at h
  unfold Fits32 int32Min int32Max
  omega

theorem fits_add (ha : Moderate a) (hn : Moderate n) : Fits32 (a + n) := by
  unfold Moderate at ha hn
  unfold Fits32 int32Min int32Max
  omega

theorem fits_sub (ha : Moderate a) (hn : Moderate n) : Fits32 (a - n) := by
  unfold Moderate at ha hn
  unfold Fits32 int32Min int32Max
  omega

/-- Along one axis: a stretch of length `k` in the middle of another. -/
theorem fits_centered (ha : Moderate a) (hn : Moderate n) (hk : Moderate k) :
    Fits32 (a + max ((n - k).tdiv 2) 0) ∧ Fits32 (a + max ((n - k).tdiv 2) 0 + k) := by
  have hhalf := half_between (n - k)
  unfold Moderate at ha hn hk
  unfold Fits32 int32Min int32Max
  omega

/-- Along one axis: what remains between two margins. Each edge is moved by one of them only, so
that it stays in range although the length loses both. -/
theorem fits_between (ha : Moderate a) (hn : Moderate n) (hl : Moderate l) (hr : Moderate r) :
    Fits32 (n - l - r) ∧ Fits32 (a + l + (n - l - r)) := by
  unfold Moderate at ha hn hl hr
  unfold Fits32 int32Min int32Max
  omega

end Moderate

namespace Rect

theorem IsModerate.fits {r : Rect} (h : r.IsModerate) : r.Fits :=
  ⟨h.x.fits, h.y.fits, h.w.fits, h.h.fits⟩

theorem IsModerate.bounded {r : Rect} (h : r.IsModerate) : r.Bounded :=
  ⟨h.x.fits, h.y.fits, h.x.fits_add h.w, h.y.fits_add h.h⟩

theorem Bounded.edges {r : Rect} (h : r.Bounded) : ∃ e f, r.right = .ok e ∧ r.bottom = .ok f :=
  ⟨_, _, plus_eq_ok.mpr ⟨h.right, rfl⟩, plus_eq_ok.mpr ⟨h.bottom, rfl⟩⟩

theorem inset_isOk {r : Rect} {m : Margins} (hr : r.IsModerate) (hm : m.IsModerate) :
    ∃ s, r.inset m = .ok s ∧ s.Bounded := by
  have hx := hr.x.fits_add hm.left
  have hy := hr.y.fits_add hm.top
  obtain ⟨hw, hright⟩ := hr.x.fits_between hr.w hm.left hm.right
  obtain ⟨hh, hbottom⟩ := hr.y.fits_between hr.h hm.top hm.bottom
  refine ⟨⟨r.x + m.left, r.y + m.top, r.w - m.left - m.right, r.h - m.top - m.bottom⟩, ?_,
    hx, hy, hright, hbottom⟩
  simp only [inset, bind_eq_ok, pure_eq_ok, plus_eq_ok, minus_eq_ok]
  exact ⟨_, ⟨hx, rfl⟩, _, ⟨hy, rfl⟩, _, ⟨hr.w.fits_sub hm.left, rfl⟩, _, ⟨hw, rfl⟩, _,
    ⟨hr.h.fits_sub hm.top, rfl⟩, _, ⟨hh, rfl⟩, rfl⟩

theorem centered_isOk {r : Rect} {z : Size} (hr : r.IsModerate) (hz : z.IsModerate) :
    ∃ s, r.centered z = .ok s ∧ s.Bounded := by
  obtain ⟨hx, hright⟩ := hr.x.fits_centered hr.w hz.w
  obtain ⟨hy, hbottom⟩ := hr.y.fits_centered hr.h hz.h
  refine ⟨⟨r.x + max ((r.w - z.w).tdiv 2) 0, r.y + max ((r.h - z.h).tdiv 2) 0, z.w, z.h⟩, ?_,
    hx, hy, hright, hbottom⟩
  simp only [centered, bind_eq_ok, pure_eq_ok, plus_eq_ok, minus_eq_ok]
  exact ⟨_, ⟨hr.w.fits_sub hz.w, rfl⟩, _, ⟨hx, rfl⟩, _, ⟨hr.h.fits_sub hz.h, rfl⟩, _, ⟨hy, rfl⟩,
    rfl⟩

end Rect

namespace Monitor

theorem named?_mem {ms : List Monitor} {checksum : UInt32} {m : Monitor}
    (h : named? ms checksum = some m) : m ∈ ms := List.mem_of_find?_eq_some h

theorem primary?_mem {ms : List Monitor} {m : Monitor} (h : primary? ms = some m) : m ∈ ms := by
  unfold primary? at h
  cases hp : ms.find? (·.primary) with
  | some n =>
    rw [hp] at h
    cases h
    exact List.mem_of_find?_eq_some hp
  | none =>
    rw [hp] at h
    exact List.mem_of_head? h

/-- The search for the nearest monitor measures distances between 32-bit points only. -/
theorem nearest?_isOk {ms : List Monitor} {q : Point} (hms : ∀ m ∈ ms, m.IsModerate)
    (hq : Fits32 q.x ∧ Fits32 q.y) : (∃ o, nearest? ms q = .ok o) ∧
      ∀ m ∈ ms, ∃ c, m.center = .ok c ∧ c.distanceWide q = some ↑(c.distance q) := by
  have hcenter : ∀ m ∈ ms, ∃ c, m.center = .ok c ∧ Fits32 c.x ∧ Fits32 c.y := by
    intro m hm
    have hbounded := (hms m hm).geometry.bounded
    exact ⟨_, hbounded.center, fits32_half hbounded.left hbounded.right,
      fits32_half hbounded.top hbounded.bottom⟩
  constructor
  · by_cases hnil : ms = []
    · rw [hnil]
      exact ⟨none, rfl⟩
    · obtain ⟨n, hn⟩ := nearest?_isSome q hnil fun m hm => (hcenter m hm).imp fun _ hc => hc.1
      exact ⟨some n, hn⟩
  · intro m hm
    obtain ⟨c, hc, hfits⟩ := hcenter m hm
    exact ⟨c, hc, Point.distanceWide_eq hfits hq⟩

end Monitor

theorem defaultRect_isOk {ms : List Monitor} {usual : Size} (hms : ∀ m ∈ ms, m.IsModerate)
    (husual : usual.IsModerate) : ∃ d, defaultRect ms usual = .ok d ∧ d.Bounded := by
  unfold defaultRect
  cases hm : Monitor.primary? ms with
  | some m => exact Rect.centered_isOk (hms m (Monitor.primary?_mem hm)).available husual
  | none =>
    refine ⟨_, rfl, fits32_zero, fits32_zero, ?_, ?_⟩
    · simpa [Rect.ofCornerSize] using husual.w.fits
    · simpa [Rect.ofCornerSize] using husual.h.fits

namespace Placement

/-- Along one axis: a stretch that is brought between two edges ends at or before the second one,
and not before the first unless they are in reverse order. -/
theorem fits_stop {x w a n : Int} (hw : 0 < w) (ha : Fits32 a) (hn : Fits32 (a + n)) :
    Fits32 (min (max x a) (a + n - min w n) + min w n) := by
  unfold Fits32 int32Min int32Max at *
  omega

theorem bounded_inside {p : Placement} (m : Monitor) {space : Rect} (hs : p.hasSize)
    (hfits : space.Fits) (hspace : space.Bounded) : (p.inside m space).Bounded := by
  have hcorner := fits_inside_of_bounded m hs hfits hspace
  have hsize : 0 < p.w ∧ 0 < p.h := by simpa [hasSize] using hs
  exact ⟨hcorner.x, hcorner.y, fits_stop hsize.1 hspace.left hspace.right,
    fits_stop hsize.2 hspace.top hspace.bottom⟩

theorem restore_bounded {p : Placement} {ms : List Monitor} {usual : Size} {frame : Margins}
    (least : Size) (hms : ∀ m ∈ ms, m.IsModerate) (husual : usual.IsModerate)
    (hframe : frame.IsModerate) : ∃ r, p.restore ms usual least frame = .ok r ∧ r.Bounded := by
  obtain ⟨d, hd, hbounded⟩ := defaultRect_isOk hms husual
  by_cases hlost : p.hasSize = false ∨ Monitor.named? ms p.monitor = none
  · exact ⟨d, restore_of_lost hd hlost, hbounded⟩
  · rw [not_or, Bool.not_eq_false] at hlost
    obtain ⟨hs, hn⟩ := hlost
    obtain ⟨m, hm⟩ := Option.ne_none_iff_exists'.mp hn
    obtain ⟨space, hi, hspace⟩ :=
      Rect.inset_isOk (hms m (Monitor.named?_mem hm)).available hframe
    refine ⟨_, restore_of_named hd hs hm hi, ?_⟩
    cases hp : p.placeOn m space least with
    | none => exact hbounded
    | some r =>
      obtain ⟨-, -, -, rfl⟩ := placeOn_eq_some.mp hp
      exact bounded_inside m hs (Rect.fits_inset hi) hspace

end Placement

namespace Snapshot

theorem kept_bounded {s : Snapshot} (hbody : s.body.IsModerate) (hcolumn : Moderate s.rightColumn) :
    s.kept.Bounded := by
  refine ⟨hbody.x.fits, hbody.y.fits, ?_, hbody.y.fits_add hbody.h⟩
  have hx := hbody.x
  have hw := hbody.w
  unfold Moderate at hx hw hcolumn
  unfold Fits32 int32Min int32Max
  simp only [kept]
  omega

theorem bodyPlacement_isOk {s : Snapshot} {ms : List Monitor} (scale : Int)
    (hms : ∀ m ∈ ms, m.IsModerate) (hbody : s.body.IsModerate) (hcolumn : Moderate s.rightColumn) :
    ∃ p, s.bodyPlacement ms scale = .ok p := by
  have hw := hbody.w.fits_sub hcolumn
  have hkept := kept_bounded hbody hcolumn
  have hcenter : s.kept.center = _ := hkept.center
  obtain ⟨⟨o, ho⟩, -⟩ := Monitor.nearest?_isOk (q := ⟨_, _⟩) hms
    ⟨fits32_half hkept.left hkept.right, fits32_half hkept.top hkept.bottom⟩
  cases o with
  | none =>
    refine ⟨s.recordAlone scale, ?_⟩
    simp only [bodyPlacement, bind_eq_ok, minus_eq_ok]
    exact ⟨_, ⟨hw, rfl⟩, _, hcenter, none, ho, rfl⟩
  | some m =>
    have hm := (hms m (Monitor.nearest?_mem ho)).geometry
    refine ⟨s.recordOn scale m, ?_⟩
    simp only [bodyPlacement, bind_eq_ok, minus_eq_ok]
    refine ⟨_, ⟨hw, rfl⟩, _, hcenter, some m, ho, ?_⟩
    simp only [bind_eq_ok, minus_eq_ok, pure_eq_ok]
    exact ⟨_, ⟨hbody.x.fits_sub hm.x, rfl⟩, _, ⟨hbody.y.fits_sub hm.y, rfl⟩, rfl⟩

theorem remember_isOk {s : Snapshot} {ms : List Monitor} (saved : Placement) (scale : Int)
    (least : Size) (hms : ∀ m ∈ ms, m.IsModerate) (hbody : s.body.IsModerate)
    (hcolumn : Moderate s.rightColumn) : ∃ o, s.remember saved ms scale least = .ok o := by
  obtain ⟨p, hp⟩ : ∃ p, s.candidate saved ms scale = .ok p := by
    unfold candidate
    split
    · exact ⟨_, rfl⟩
    · exact bodyPlacement_isOk scale hms hbody hcolumn
  unfold remember
  split
  · rw [hp]
    exact ⟨_, rfl⟩
  · exact ⟨none, rfl⟩

end Snapshot

/-- Records, scales and least sizes hold any 32-bit numbers. The 64-bit steps of placing a record
and of searching for the nearest monitor stay in their range as well. -/
theorem restore_remember_inRange {ms : List Monitor} (hms : ∀ m ∈ ms, m.IsModerate) (least : Size)
    (hleast : least.Fits) :
    (∀ (p : Placement) (usual : Size) (frame : Margins), p.Fits → usual.IsModerate →
      frame.IsModerate →
      (∃ r e f, p.restore ms usual least frame = .ok r ∧ r.right = .ok e ∧ r.bottom = .ok f) ∧
      ∀ m, Monitor.named? ms p.monitor = some m → ∃ space,
        m.available.inset frame = .ok space ∧
        p.placeOnWide m space least = some (p.placeOn m space least)) ∧
    (∀ q : Point, Fits32 q.x ∧ Fits32 q.y → (∃ o, Monitor.nearest? ms q = .ok o) ∧
      ∀ m ∈ ms, ∃ c, m.center = .ok c ∧ c.distanceWide q = some ↑(c.distance q)) ∧
    ∀ (s : Snapshot) (saved : Placement) (scale : Int), s.body.IsModerate →
      Moderate s.rightColumn → ∃ o, s.remember saved ms scale least = .ok o := by
  refine ⟨?_, fun q hq => Monitor.nearest?_isOk hms hq, ?_⟩
  · intro p usual frame hp husual hframe
    constructor
    · obtain ⟨r, hr, hbounded⟩ := Placement.restore_bounded least hms husual hframe
      obtain ⟨e, f, he, hf⟩ := hbounded.edges
      exact ⟨r, e, f, hr, he, hf⟩
    · intro m hm
      have hm := hms m (Monitor.named?_mem hm)
      obtain ⟨space, hi, -⟩ := Rect.inset_isOk hm.available hframe
      exact ⟨space, hi, Placement.placeOnWide_eq hp hm.geometry.fits (Rect.fits_inset hi) hleast⟩
  · intro s saved scale hbody hcolumn
    exact Snapshot.remember_isOk saved scale least hms hbody hcolumn

/-- A monitor as far to the left and as wide as can be, with a record of the largest offsets and a
window at the opposite corner. -/
theorem restore_remember_inRange_far :
    let m : Monitor :=
      ⟨"DP-1", ⟨-536870912, 0, 536870912, 1080⟩, ⟨-536870912, 40, 536870912, 1040⟩, true⟩
    let space : Rect := ⟨-536870904, 71, 536870896, 1001⟩
    let p : Placement := ⟨2147483647, -2147483648, 2147483647, 600, -1, false, m.checksum⟩
    let s : Snapshot := ⟨⟨536870912, -536870912, 536870912, 700⟩, .normal, true, true, -536870912⟩
    (∃ r e f, p.restore [m] ⟨800, 600⟩ ⟨380, 480⟩ ⟨8, 31, 8, 8⟩ = .ok r ∧ r.right = .ok e ∧
      r.bottom = .ok f) ∧
    p.placeOnWide m space ⟨380, 480⟩ = some (some ⟨-536870904, 71, 536870896, 600⟩) ∧
    ∃ o, s.remember p [m] 2147483647 ⟨380, 480⟩ = .ok o := by
  intro m space p s
  have hms : ∀ n ∈ [m], n.IsModerate := by
    simp only [List.mem_singleton, forall_eq]
    exact ⟨by constructor <;> decide, by constructor <;> decide⟩
  have hnamed : Monitor.named? [m] p.monitor = some m := by simp [Monitor.named?, p]
  obtain ⟨hrestore, -, hremember⟩ := restore_remember_inRange hms ⟨380, 480⟩
    (by constructor <;> decide)
  obtain ⟨hplaced, hwide⟩ := hrestore p ⟨800, 600⟩ ⟨8, 31, 8, 8⟩ (by constructor <;> decide)
    (by constructor <;> decide) (by constructor <;> decide)
  obtain ⟨space', hi, hp⟩ := hwide m hnamed
  cases hi
  exact ⟨hplaced, hp, hremember s p 2147483647 (by constructor <;> decide) (by decide)⟩

end WindowKeeper
